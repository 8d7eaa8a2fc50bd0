import PartitionConsumer.Proofs.HookOrder
import PartitionConsumer.Proofs.Session.Halts
/-!
# After the close

When the pump has published that it is closed it calls no hook any more, except the error hook: for the
deferred part of a failure that the executor runs late, and for the failure of a batch that was in hand.
Calls may be dropped at any time. If none is, and the transport keeps to its contract, no batch is in
hand when the pump is closed, and only the deferred part of a failure is left.
-/
namespace PartitionConsumer

/-! ## Hooks, reports and failed batches -/

def Request.hook? : Request → Option HookCall
  | .hook c => some c
  | _ => none

@[simp] theorem Release.hook?_request (r : Release) : r.request.hook? = none := by
  unfold Release.request
  split <;> rfl

def Effect.hook? : Effect → Option HookCall
  | .ask r => r.hook?
  | _ => none

/-- The calls of hooks that began, in order. -/
def hooks (h : List Mark) : List HookCall := (effects h).filterMap Effect.hook?

def Mark.report? : Mark → Option TransportError
  | .began _ (.report e) => some e
  | _ => none

/-- The failures whose deferred part the executor has begun to run, in order. -/
def reports (h : List Mark) : List TransportError := h.filterMap Mark.report?

/-- What the error hook is to be told of because of this entry, other than failed opens: of a failure
whose deferred part begins, or of a batch that the batch hook has failed on. -/
def Mark.trouble? : Mark → Option PumpError
  | .began _ (.report e) => some (.delivery e)
  | .told _ { call := .deliver (.onEvents _), .. } (.hook (.error e)) => some (.processor e)
  | _ => none

def troubles (h : List Mark) : List PumpError := h.filterMap Mark.trouble?

section Histories

@[simp] theorem hooks_append (h k : List Mark) : hooks (h ++ k) = hooks h ++ hooks k := by simp [hooks]

@[simp] theorem hooks_did (id : Nat) (es : List Effect) :
    hooks (es.map (.did id)) = es.filterMap Effect.hook? := by simp [hooks]

@[simp] theorem hooks_end (nx : Next) (id : Nat) (errand : Errand) : hooks (nx.marks id errand) = [] := by
  simp [hooks]

@[simp] theorem hooks_marks (w : Waiting) (id : Nat) (a : Answer) : hooks (w.marks id a) = [] := by
  simp [hooks]

@[simp] theorem reports_append (h k : List Mark) : reports (h ++ k) = reports h ++ reports k := by
  simp [reports]

@[simp] theorem troubles_append (h k : List Mark) : troubles (h ++ k) = troubles h ++ troubles k := by
  simp [troubles]

@[simp] theorem troubles_did (id : Nat) (es : List Effect) : troubles (es.map (.did id)) = [] := by
  simp [troubles, Mark.trouble?]

@[simp] theorem troubles_end (nx : Next) (id : Nat) (errand : Errand) :
    troubles (nx.marks id errand) = [] := by cases nx <;> rfl

theorem troubles_marks (w : Waiting) (id : Nat) (a : Answer) (h : ∀ stage, w.call ≠ .deliver stage) :
    troubles (w.marks id a) = [] := by
  obtain ⟨errand, call, request⟩ := w
  cases call with
  | deliver stage => exact absurd rfl (h stage)
  | _ => rfl

/-- The entry after the first `n`, which publishes an event. -/
theorem exists_of_announced {k : EventKind} {h : List Mark} {n : Nat}
    (ha : 0 < announced k ((h.drop n).take 1)) :
    ∃ id e, h = h.take n ++ .did id (.publish e) :: h.drop (n + 1) ∧ e.kind = k := by
  obtain ⟨pre, id, e, post, he, hk⟩ := exists_of_announced_pos k ha
  have hl := congrArg List.length he
  simp only [List.length_take, List.length_append, List.length_cons] at hl
  obtain rfl : pre = [] := List.eq_nil_of_length_eq_zero (by omega)
  refine ⟨id, e, ?_, hk⟩
  have hd : h.drop n = .did id (.publish e) :: h.drop (n + 1) := by
    rw [← List.tail_drop]
    cases hd : h.drop n with
    | nil =>
      rw [hd] at he
      cases he
    | cons m rest =>
      rw [hd] at he
      rw [(List.cons.inj he).1]
      rfl
  rw [← hd, List.take_append_drop]

theorem reports_eq_nil {h : List Mark} (ht : troubles h = []) : reports h = [] := by
  refine List.filterMap_eq_nil_iff.2 fun m hm => ?_
  have hn := List.filterMap_eq_nil_iff.1 ht m hm
  cases m with
  | began id errand => cases errand <;> first | rfl | cases hn
  | _ => rfl

/-- Where no delivery is told anything, the troubles are those that the executor reports. -/
theorem troubles_eq_reports {h : List Mark}
    (hd : ∀ id w a, .told id w a ∈ h → ∀ stage, w.call ≠ .deliver stage) :
    troubles h = (reports h).map .delivery := by
  induction h with
  | nil => rfl
  | cons m h ih =>
    have hh := ih fun id w a hm => hd id w a (List.mem_cons_of_mem _ hm)
    cases m with
    | began id errand =>
      cases errand with
      | report e => exact congrArg (PumpError.delivery e :: ·) hh
      | _ => exact hh
    | told id w a =>
      have ht : troubles [.told id w a] = [] := by
        have hw := hd id w a List.mem_cons_self
        obtain ⟨errand, call, request⟩ := w
        cases call with
        | deliver stage => exact absurd rfl (hw stage)
        | _ => rfl
      exact (troubles_append [_] h).trans (by rw [ht]; exact hh)
    | _ => exact hh

end Histories

/-- The hook that is called is the one that is waited for. -/
theorem hooks_eq_request {es : List Effect} {nx : Next} (h : Asks es nx) :
    es.filterMap Effect.hook? = nx.request?.toList.filterMap Request.hook? := by
  rw [← h.requests, List.filterMap_filterMap]
  refine List.filterMap_congr fun e _ => ?_
  cases e <;> rfl

/-- A call that waits for no hook has asked none. -/
theorem hooks_of_asks {es : List Effect} {nx : Next} (h : Asks es nx)
    (hn : ∀ r ∈ nx.request?, r.hook? = none) : es.filterMap Effect.hook? = [] := by
  rw [hooks_eq_request h]
  exact List.filterMap_eq_nil_iff.2 fun r hr => hn r (Option.mem_toList.1 hr)

/-! ## The moves of a pump that is closed -/

namespace Pump

variable {p q : Pump} {es : List Effect} {nx : Next}

theorem StartMove.mute (h : StartMove p q es nx) (hc : p.status = .closed) : nx.request? = none := by
  cases h with
  | ignored => rfl
  | opens _ hu =>
    rw [hc] at hu
    cases hu

theorem AttemptMove.mute {cut : Bool} {shown : List Effect} (h : AttemptMove p cut shown q es nx)
    (ht : p.stopping = true) : nx.request? = none := by
  cases h with
  | attempt a hs =>
    rw [ht] at hs
    cases hs
  | report e hs =>
    rw [ht] at hs
    cases hs
  | _ => rfl

/-- In a pump that is closed an opening call is past the opening hook, and calls no other. -/
theorem OpenMove.mute {stage : OpenStage} {a : Answer} (h : OpenMove p stage a q es nx)
    (hc : p.status = .closed) (ht : p.stopping = true) (hs : stage ≠ .onOpen) :
    ∀ r ∈ nx.request?, r.hook? = none := by
  cases h with
  | refuse => exact absurd rfl hs
  | closeLate => exact absurd rfl hs
  | connect => exact absurd rfl hs
  | clientFailed a f _ h => simp [h.mute ht]
  | abandoned a f outcome h => simp [h.mute ht]
  | pauseOver a wake h => simp [h.mute ht]
  | failedReleases e outcome c ho =>
    rw [hc] at ho
    cases ho
  | releaseNext r r' => simp [Next.request?]
  | _ => simp [Next.request?, Request.hook?]

section Shutdown

variable {now ticket : Nat} {reason : CloseReason}

/-- In a pump that is closed the shutdown procedure shows nothing and asks nothing. -/
theorem RunMove.still (h : RunMove p now ticket reason q es nx) (hc : p.status = .closed) :
    es = [] ∧ nx.request? = none := by
  cases h with
  | closed => exact ⟨rfl, rfl⟩
  | settle hn => exact absurd hc hn
  | disconnect hn => exact absurd hc hn

theorem EnterMove.still (h : EnterMove p now ticket reason q es nx) (hc : p.status = .closed) :
    es = [] ∧ nx.request? = none := by
  cases h with
  | run _ _ hr => exact hr.still hc
  | _ => exact ⟨rfl, rfl⟩

theorem ShutdownMove.still {stage : ShutdownStage} {a : Answer}
    (h : ShutdownMove p now ticket reason stage a q es nx) (hc : p.status = .closed)
    (hs : stage.isReleasing = false) : es = [] ∧ nx.request? = none := by
  cases h with
  | queuedRun _ hr => exact hr.still hc
  | disconnect wake _ hn => exact absurd hc hn
  | releaseNext => cases hs
  | releaseEnds => cases hs
  | close => cases hs
  | _ => exact ⟨rfl, rfl⟩

end Shutdown

theorem ReceiveMove.still {batch : Option Batch} (h : ReceiveMove p batch q es nx)
    (hc : p.status = .closed) : es = [] ∧ nx.request? = none := by
  cases h with
  | unheard => exact ⟨rfl, rfl⟩
  | handle _ hn =>
    rw [hc] at hn
    cases hn

end Pump

/-! ## What a step adds to the history -/

namespace Session

/-- In a pump that is closed, and not in the opening hook any more, the error hook is called because of
troubles and no other hook is called. Where the pump is closed, the step ends. -/
structure Adds (s : Session) (ms : List Mark) : Prop where
  closed : s.pump.status = .closed → .onOpen ∉ s.openers → hooks ms = (troubles ms).map .onError
  last : ∀ pre id e post, ms = pre ++ .did id (.publish e) :: post → e.kind = .pumpClosed →
    hooks post = [] ∧ troubles post = []
  heard : ∀ id w a, .told id w a ∈ ms → s.call? id = some w

variable {s t : Session} {c : Cause}

theorem Adds.of_not_did {ms : List Mark} (hd : ∀ i e, .did i e ∉ ms) (hh : hooks ms = [])
    (ht : troubles ms = []) (hw : ∀ i w a, .told i w a ∉ ms) : s.Adds ms where
  closed _ _ := by rw [hh, ht]; rfl
  heard i w a hm := absurd hm (hw i w a)
  last pre id e post he := by
    refine absurd ?_ (hd id (.publish e))
    rw [he]
    exact List.mem_append_right _ List.mem_cons_self

theorem Adds.carry {ms : List Mark} {id : Nat} {errand : Errand} {es : List Effect} {nx : Next}
    (hd : ∀ i e, .did i e ∉ ms) (hh : hooks ms = []) (ha : Asks es nx)
    (hw : ∀ i w a, .told i w a ∈ ms → s.call? i = some w)
    (hl : 0 < es.countP (Effect.announces .pumpClosed) → nx.call? = none)
    (hc : s.pump.status = .closed → .onOpen ∉ s.openers →
      es.filterMap Effect.hook? = (troubles ms).map .onError) :
    s.Adds (ms ++ (es.map (.did id) ++ nx.marks id errand)) := by
  refine ⟨fun hs ho => ?_, fun pre i e post he hk => ?_, fun i w a hm => ?_⟩
  · simpa [hh] using hc hs ho
  · -- the event is among the effects, and what follows it is too
    obtain ⟨mid, hm, rfl⟩ := (split_append he).resolve_right fun ⟨mid, hp, _⟩ =>
      hd i (.publish e) (by rw [hp]; exact List.mem_append_right _ List.mem_cons_self)
    have hp := congrArg (announced .pumpClosed) hm
    rw [announced_append, announced_did, announced_end, announced_append] at hp
    have hx : 0 < announced .pumpClosed (.did i (.publish e) :: post) :=
      announced_pos_of_split _ (List.nil_append _).symm hk
    have hn : nx.call? = none := hl (by omega)
    have hq : es.filterMap Effect.hook? = [] := by
      refine hooks_of_asks ha fun r hr => ?_
      cases nx with
      | ask r c => cases hn
      | _ => cases hr
    have hh := congrArg hooks hm
    have ht := congrArg troubles hm
    rw [hooks_append, hooks_append, hooks_did, hooks_end, hq, eq_comm, List.append_nil,
      List.append_eq_nil_iff] at hh
    rw [troubles_append, troubles_append, troubles_did, troubles_end, eq_comm, List.append_nil,
      List.append_eq_nil_iff] at ht
    exact ⟨hh.2, ht.2⟩
  · rw [List.mem_append, List.mem_append] at hm
    obtain hm | hm | hm := hm
    · exact hw i w a hm
    · simp at hm
    · cases nx <;> simp [Next.marks] at hm

theorem Tells.of_mem_marks {id i : Nat} {w v : Waiting} {a b : Answer} (h : s.Tells id w a c)
    (hm : .told i v b ∈ w.marks id a) : s.call? i = some v := by
  obtain hm | hm := Waiting.mem_marks hm <;> cases hm
  exact h.call?

theorem Adds.launch {errand e : Errand} {es : List Effect} {nx : Next} (ha : Asks es nx)
    (hl : 0 < es.countP (Effect.announces .pumpClosed) → nx.call? = none)
    (hc : s.pump.status = .closed →
      es.filterMap Effect.hook? = (troubles [.began s.next e]).map .onError) :
    s.Adds ([.began s.next e] ++ (es.map (.did s.next) ++ nx.marks s.next errand)) :=
  .carry (by simp) rfl ha (by simp) hl fun hs _ => hc hs

theorem Adds.tell {id : Nat} {w : Waiting} {a : Answer} {errand : Errand} {es : List Effect}
    {nx : Next} (ht : s.Tells id w a c) (ha : Asks es nx)
    (hl : 0 < es.countP (Effect.announces .pumpClosed) → nx.call? = none)
    (hc : s.pump.status = .closed → .onOpen ∉ s.openers →
      es.filterMap Effect.hook? = (troubles (w.marks id a)).map .onError) :
    s.Adds (w.marks id a ++ (es.map (.did id) ++ nx.marks id errand)) :=
  .carry (not_did_mem_marks w id a) (hooks_marks w id a) ha (fun _ _ _ => ht.of_mem_marks) hl hc

theorem Step.adds (hi : s.Led) (h : s.Halted) (hs : s.Step c t) :
    ∃ ms, t.history = s.history ++ ms ∧ s.Adds ms := by
  have split (b : Session) (ms : List Mark) (hb : b.history = s.history ++ ms) {id : Nat}
      {errand : Errand} {q : Pump} {es : List Effect} {nx : Next} :
      (b.carry id errand q es nx).history
        = s.history ++ (ms ++ (es.map (.did id) ++ nx.marks id errand)) :=
    history_carry_of id errand q es nx hb
  have mute {nx : Next} (h : nx.request? = none) : ∀ r ∈ nx.request?, r.hook? = none := by simp [h]
  cases hs with
  | start hm =>
    refine ⟨_, split (s.begin .start) _ rfl, .launch hm.asks
      (fun hp => ((hm.steady h.linked).published hp).2) fun hc => ?_⟩
    exact hooks_of_asks hm.asks (mute (hm.mute hc))
  | shutdown reason hm =>
    refine ⟨_, split (s.begin (.shutdown reason)) _ rfl, .launch hm.asks
      (fun hp => hm.published h.linked hp) fun hc => ?_⟩
    exact hooks_of_asks hm.asks (mute (hm.still hc).2)
  | deliver report batch hm =>
    refine ⟨_, split (s.begin (.delivery batch)) _ rfl, .launch hm.asks
      (fun hp => ((hm.steady h.linked).published hp).2) fun hc => ?_⟩
    exact hooks_of_asks hm.asks (mute (hm.still hc).2)
  | fail e hm =>
    refine ⟨_, split (s.begin (.failure e)) _ rfl, .launch hm.asks (fun _ => rfl) fun _ => ?_⟩
    exact hooks_of_asks hm.asks nofun
  | report n e he =>
    refine ⟨_, split ((s.forget n).begin (.report e)) _ rfl, .launch .only (by simp)
      fun _ => rfl⟩
  | discard n hn => exact ⟨[], (List.append_nil _).symm, .of_not_did (by simp) rfl rfl (by simp)⟩
  | tellStart id w a stage ht hw hm =>
    obtain ⟨-, ho, -, -⟩ := hi.told_start ht hw
    have hr (r : Release) : stage ≠ .release r true := by
      rintro rfl
      exact h.release r (by rw [ho]; exact List.mem_cons_self)
    refine ⟨_, split (s.told id w a) _ rfl, .tell ht hm.asks
      (fun hp => ((hm.steady h.linked hr).published hp).2) fun hc hn => ?_⟩
    rw [troubles_marks w id a (by simp [hw])]
    refine hooks_of_asks hm.asks (hm.mute hc (h.closed hc (by simp [ho])) ?_)
    rintro rfl
    exact hn (by rw [ho]; exact List.mem_cons_self)
  | tellShutdown id w a ticket reason stage ht hw hm =>
    refine ⟨_, split (s.told id w a) _ rfl, .tell ht hm.asks (fun hp => ?_)
      fun hc _ => ?_⟩
    · obtain ⟨-, -, rfl⟩ | ⟨-, hk⟩ := h.halting_told hi ht hw hm
      · rfl
      · exact (hk.published hp).2
    · rw [troubles_marks w id a (by simp [hw])]
      refine hooks_of_asks hm.asks (mute (hm.still hc (Bool.eq_false_iff.2 fun hs => ?_)).2)
      rw [h.releasing_call ht.call? hw hs] at hc
      cases hc
  | tellDelivery id w a stage ht hw hm =>
    refine ⟨_, split (s.told id w a) _ rfl, .tell ht hm.asks
      (fun hp => ((hm.steady h.linked).published hp).2) fun _ _ => ?_⟩
    obtain ⟨errand, call, request⟩ := w
    subst hw
    cases hm <;> rfl
  | tellReport id w outcome ticket ht hw hm =>
    refine ⟨_, split (s.told id w (.hook outcome)) _ rfl,
      .tell ht hm.asks (fun hp => hm.published h.linked hp) fun hc _ => ?_⟩
    rw [troubles_marks w id _ (by simp [hw])]
    exact hooks_of_asks hm.asks (mute (hm.still hc).2)
  | drop id w hw => exact ⟨_, rfl, .of_not_did (by simp) rfl rfl (by simp)⟩
  | bump => exact ⟨[], (List.append_nil _).symm, .of_not_did (by simp) rfl rfl (by simp)⟩
  | pass ticks => exact ⟨_, rfl, .of_not_did (by simp) rfl rfl (by simp)⟩

end Session

/-! ## What follows the close -/

/-- In the history `h` the marks `post` follow the close, before which the opening hook had returned if
it was called. -/
def FollowsClose (h post : List Mark) : Prop :=
  ∃ pre id e, h = pre ++ .did id (.publish e) :: post ∧ e.kind = .pumpClosed
    ∧ asked Request.isOnOpen pre = answered Request.isOnOpen pre

theorem not_followsClose_nil {post : List Mark} : ¬ FollowsClose [] post := by
  rintro ⟨pre, id, e, he, -⟩
  exact List.append_ne_nil_of_right_ne_nil pre (List.cons_ne_nil _ _) he.symm

theorem FollowsClose.announced {h post : List Mark} (hf : FollowsClose h post) :
    0 < announced .pumpClosed h := by
  obtain ⟨pre, id, e, hs, hk, -⟩ := hf
  exact announced_pos_of_split _ hs hk

/-- What follows the close in a history that grows. -/
theorem FollowsClose.of_append {h ms post : List Mark} (hf : FollowsClose (h ++ ms) post) :
    (∃ pre id e, ms = pre ++ .did id (.publish e) :: post ∧ e.kind = .pumpClosed)
      ∨ ∃ mid, FollowsClose h mid ∧ post = mid ++ ms := by
  obtain ⟨pre, id, e, he, hk, ho⟩ := hf
  obtain ⟨mid, hm, -⟩ | ⟨mid, hp, hm⟩ := split_append he
  · exact .inl ⟨mid, id, e, hm, hk⟩
  · exact .inr ⟨mid, ⟨pre, id, e, hp, hk, ho⟩, hm⟩

theorem onOpen_mem_hooks {h : List Mark} (ha : 0 < asked Request.isOnOpen h) : .onOpen ∈ hooks h := by
  obtain ⟨pre, id, r, post, rfl, hr⟩ := exists_of_asked_pos _ ha
  rw [hooks_append]
  refine List.mem_append_right _ ?_
  unfold Request.isOnOpen at hr
  split at hr
  · exact List.mem_cons_self
  · cases hr

namespace Session

variable {s t : Session} {c : Cause}

/-- A call in the opening hook waits for it. -/
theorem Tidy.awaited_of_onOpen (h : s.Tidy) (ho : .onOpen ∈ s.openers) :
    0 < s.awaited Request.isOnOpen := by
  obtain ⟨⟨id, w⟩, hm, hw⟩ := List.mem_filterMap.1 ho
  refine List.countP_pos_iff.2 ⟨_, hm, ?_⟩
  have hf : w.Fits id := h.fits _ hm
  cases hf with
  | start ha =>
    obtain rfl := Option.some.inj hw
    cases ha
    rfl
  | _ => cases hw

/-- All that follows the close are calls of the error hook, each for its trouble. -/
def Spent (s : Session) : Prop :=
  ∀ post, FollowsClose s.history post → hooks post = (troubles post).map .onError

/-- After the close no call is in the opening hook. -/
theorem Spent.onOpen {lost : (Request → Bool) → Nat} (h : s.Spent) (hi : s.Tidy)
    (ha : s.Attended lost) {post : List Mark} (hf : FollowsClose s.history post) :
    .onOpen ∉ s.openers := by
  intro hm
  have hw := hi.awaited_of_onOpen hm
  have hp : asked Request.isOnOpen post = 0 := by
    refine Nat.eq_zero_of_not_pos fun hp => ?_
    have ho := onOpen_mem_hooks hp
    rw [h post hf] at ho
    obtain ⟨e, -, he⟩ := List.mem_map.1 ho
    cases he
  obtain ⟨pre, id, e, he, -, hn⟩ := hf
  have hs := ha Request.isOnOpen
  have hx : asked Request.isOnOpen (.did id (.publish e) :: post) = asked Request.isOnOpen post := rfl
  rw [he, asked_append, answered_append, hx] at hs
  omega

theorem Spent.step {lost : (Request → Bool) → Nat} (hi : s.Led) (hh : s.Halted) (ha : s.Attended lost)
    (h : s.Spent) (hs : s.Step c t) : t.Spent := by
  obtain ⟨ms, hms, had⟩ := hs.adds hi hh
  intro post hf
  rw [hms] at hf
  obtain ⟨pre, id, e, he, hk⟩ | ⟨mid, hm, rfl⟩ := hf.of_append
  · obtain ⟨hp, ht⟩ := had.last pre id e post he hk
    rw [hp, ht]
    rfl
  · -- the pump was closed before this step
    rw [hooks_append, troubles_append, List.map_append, h mid hm,
      had.closed (hh.published hm.announced) (h.onOpen hi.tidy ha hm)]

structure Closes (s : Session) : Prop where
  led : s.Led
  halted : s.Halted
  attended : ∃ lost, s.Attended lost
  spent : s.Spent

theorem Closes.new {context : Context} {lease : Lease} {options : Options} {wire : String}
    {draw : Nat → Nat} : (Session.new (.new context lease options wire draw)).Closes where
  led := .new _ rfl rfl rfl
  halted := .new _ rfl nofun
  attended := ⟨fun _ => 0, fun _ => rfl⟩
  spent _ hf := absurd hf not_followsClose_nil

theorem Closes.step (h : s.Closes) (hs : s.Step c t) : t.Closes := by
  obtain ⟨lost, ha⟩ := h.attended
  obtain ⟨more, hm, -⟩ := ha.step hs
  exact ⟨h.led.step hs, h.halted.step h.led hs, ⟨more, hm⟩, h.spent.step h.led h.halted ha hs⟩

/-! ## Fair runs -/

/-- All that follows the close are calls of the error hook for the deferred part of a failure. -/
def Quiet (s : Session) : Prop :=
  ∀ post, FollowsClose s.history post → troubles post = (reports post).map .delivery

theorem Quiet.step (hi : s.Led) (hl : s.Settled) (hh : s.Halted) (hd : s.Tended) (h : s.Quiet)
    (hs : s.Step c t) : t.Quiet := by
  obtain ⟨ms, hms, had⟩ := hs.adds hi hh
  intro post hf
  rw [hms] at hf
  obtain ⟨pre, id, e, he, hk⟩ | ⟨mid, hm, rfl⟩ := hf.of_append
  · obtain ⟨-, ht⟩ := had.last pre id e post he hk
    rw [ht, reports_eq_nil ht]
    rfl
  · -- no batch is in hand any more
    have ht : troubles ms = (reports ms).map .delivery := by
      refine troubles_eq_reports fun id w a hw stage hc => ?_
      exact hd.not_delivers hl (hh.published hm.announced) id ⟨w, stage, mem_of_call? (had.heard id w a hw), hc⟩
    rw [troubles_append, reports_append, List.map_append, h mid hm, ht]

structure Ceases (s : Session) : Prop where
  inTurn : s.InTurn
  settled : s.Settled
  halted : s.Halted
  tended : s.Tended
  quiet : s.Quiet

theorem Ceases.new {context : Context} {lease : Lease} {options : Options} {wire : String}
    {draw : Nat → Nat} : (Session.new (.new context lease options wire draw)).Ceases where
  inTurn := .new _ rfl rfl rfl
  settled := .new
  halted := .new _ rfl nofun
  tended := by
    rintro id ⟨w, stage, hm, -⟩
    cases hm
  quiet _ hf := absurd hf not_followsClose_nil

theorem Ceases.step (h : s.Ceases) (hf : s.Fair c) (hs : s.Step c t) : t.Ceases where
  inTurn := h.inTurn.step hf.undropped hs
  settled := h.settled.step hf.undropped h.inTurn hs
  halted := h.halted.step h.inTurn.toLed hs
  tended := h.tended.step h.inTurn h.settled hf hs
  quiet := h.quiet.step h.inTurn.toLed h.settled h.halted h.tended hs

end Session

/-! ## The hooks after the close -/

section Main

variable {context : Context} {lease : Lease} {options : Options} {wire : String} {draw : Nat → Nat}

/-- Every run on the in-memory transport is a fair run of its session. -/
theorem Bench.runsFairly {xs : List Stimulus} {b : Bench}
    (h : (Bench.new (.new context lease options wire draw)).run xs = some b) :
    ∃ cs, (Session.new (.new context lease options wire draw)).run cs = some b.session
      ∧ (Session.new (.new context lease options wire draw)).RunsFairly cs := by
  refine (run_induction (P := fun b => b.Ordered
    ∧ ∃ cs, (Session.new (.new context lease options wire draw)).run cs = some b.session
      ∧ (Session.new (.new context lease options wire draw)).RunsFairly cs)
    ⟨.new, [], rfl, trivial⟩ ?_ h).2
  rintro b x b' ⟨hb, cs, hr, hf⟩ hs
  refine ⟨hb.step hs, ?_⟩
  obtain he | ⟨c, hc, ht⟩ := hs.fair hb.inTurn hb.settled hb.guarded
  · exact ⟨cs, he ▸ hr, hf⟩
  · exact ⟨cs ++ [c], Session.run_snoc hr ht, hf.snoc hr hc⟩

/-- Once the pump has published that it is closed, and the opening hook had returned if it was called,
no hook is called but the error hook: for the deferred part of a failure, and for a batch that the batch
hook failed on. In a fair run the former are all, so that no hook is called exactly if the executor runs
no deferred part of a failure. -/
theorem hooks_after_close {cs : List Cause} {s : Session}
    (h : (Session.new (.new context lease options wire draw)).run cs = some s)
    {pre post : List Mark} {id : Nat} {e : Event}
    (hs : s.history = pre ++ .did id (.publish e) :: post) (he : e.kind = .pumpClosed)
    (ho : asked Request.isOnOpen pre = answered Request.isOnOpen pre) :
    hooks post = (troubles post).map .onError
      ∧ ((Session.new (.new context lease options wire draw)).RunsFairly cs →
        hooks post = (reports post).map (fun e => .onError (.delivery e))
          ∧ (hooks post = [] ↔ reports post = [])) := by
  have hc : s.Closes :=
    Session.run_induction .new (fun s c t _ hp ht => hp.step (Session.step_of_step? hp.led.tidy.trace ht)) h
  have hf : FollowsClose s.history post := ⟨pre, id, e, hs, he, ho⟩
  refine ⟨hc.spent post hf, fun hr => ?_⟩
  have hq : s.Ceases := hr.induction .new
    (fun s c t hf hp ht => hp.step hf (Session.step_of_step? hp.inTurn.tidy.trace ht)) h
  have hp : hooks post = (reports post).map (fun e => .onError (.delivery e)) := by
    rw [hc.spent post hf, hq.quiet post hf, List.map_map]
    rfl
  exact ⟨hp, by rw [hp, List.map_eq_nil_iff]⟩

/-- The receiver fails, another caller shuts the pump down, and then the executor comes to the deferred
part of the failure. -/
theorem hooks_after_close_of_late_report :
    ∃ b cs pre id e post, Bench.sample.run (Bench.opening
        ++ [.arrive 0 (.failure default), .enter 0 none, .own (.shutdown .leaseLost), .pass 2,
          .drain 2 none, .close 2 none, .close 2 none, .own (.answer 2 (.hook (.ok ()))),
          .own (.report 0)]) = some b
      ∧ Bench.sample.session.run cs = some b.session ∧ Bench.sample.session.RunsFairly cs
      ∧ b.session.history = pre ++ .did id (.publish e) :: post ∧ e.kind = .pumpClosed
      ∧ asked Request.isOnOpen pre = answered Request.isOnOpen pre
      ∧ hooks post = [.onError (.delivery default)] := by
  have hr : (Bench.sample.run (Bench.opening
        ++ [.arrive 0 (.failure default), .enter 0 none, .own (.shutdown .leaseLost), .pass 2,
          .drain 2 none, .close 2 none, .close 2 none, .own (.answer 2 (.hook (.ok ()))),
          .own (.report 0)])).map
      (fun b => (asked Request.isOnOpen (b.session.history.take 33),
        answered Request.isOnOpen (b.session.history.take 33),
        announced .pumpClosed ((b.session.history.drop 33).take 1),
        reports (b.session.history.drop 34))) = some (1, 1, 1, [default]) := by rfl
  obtain ⟨b, hb, he⟩ := Option.map_eq_some_iff.1 hr
  simp only [Prod.mk.injEq] at he
  obtain ⟨ha, hn, hp, hd⟩ := he
  obtain ⟨id, e, hh, hk⟩ := exists_of_announced (k := .pumpClosed) (h := b.session.history) (n := 33) (by omega)
  obtain ⟨cs, hc, hf⟩ := Bench.runsFairly hb
  have hq := ((hooks_after_close hc hh hk (ha.trans hn.symm)).2 hf).1
  exact ⟨b, cs, _, id, e, _, hb, hc, hf, hh, hk, ha.trans hn.symm, by rw [hq, hd]; rfl⟩

end Main
end PartitionConsumer
