import PartitionConsumer.Proofs.CloseHook
/-!
# Service

A receiver is in service while the pump holds it and while a shutdown clears its handler. Its deliveries
belong to that time.
-/
namespace PartitionConsumer

/-! ## The connection from one move to the next -/

section Installs

variable (p : Pump) (n : Nat)

@[simp] theorem install_not_mem_faults (r : Release) (outcome : Except TransportError Unit) :
    .install n ∉ p.faults r outcome := by
  rcases outcome with e | ⟨⟩ <;> simp [Pump.faults, Pump.event]

@[simp] theorem install_not_mem_failureFault (a : Attempt) (f : AttemptFailure) :
    .install n ∉ p.failureFault a f := by
  obtain h | ⟨e, h⟩ := p.failureFault_eq a f <;> rw [h] <;> simp [Pump.event]

@[simp] theorem install_not_mem_closingEffects (s t : String) :
    .install n ∉ p.closingEffects s t := by simp [Pump.closingEffects, Pump.event]

@[simp] theorem install_not_mem_closedEffects : .install n ∉ p.closedEffects := by
  simp [Pump.closedEffects, Pump.event]

@[simp] theorem install_not_mem_unlinkedEffects (reason : CloseReason) :
    .install n ∉ p.unlinkedEffects reason := by
  unfold Pump.unlinkedEffects Pump.closingStatusEffects
  split <;> simp [Pump.event]

end Installs

namespace Pump

variable {p q : Pump} {es : List Effect} {nx : Next}

/-- The pump keeps its connection, or a shutdown takes it out and clears the handler. The handler is
installed only on the receiver of a connection. -/
structure Links (p q : Pump) (es : List Effect) (nx : Next) : Prop where
  kept : ∀ c, p.connection = some c → q.connection = some c
    ∨ .ask (.clearHandler c.receiver) ∈ es ∧ ∃ t ∈ nx.turn?, t.stage = .release ⟨c, .clearHandler⟩
  installed : ∀ r, .install r ∈ es → ∃ c, q.connection = some ⟨c, r⟩

theorem Links.same (hc : q.connection = p.connection) (hi : ∀ r, .install r ∉ es) :
    Links p q es nx where
  kept _ h := .inl (hc.trans h)
  installed r h := absurd h (hi r)

theorem Links.congr {r : Pump} (h : Links r q es nx) (hr : r.connection = p.connection) :
    Links p q es nx where
  kept c hc := h.kept c (hr.trans hc)
  installed := h.installed

theorem AttemptMove.links {cut : Bool} {shown : List Effect} (h : AttemptMove p cut shown q es nx)
    (hs : ∀ r, .install r ∉ shown) : Links p q es nx := by
  cases h with
  | attempt => exact .same rfl fun r => by simp [hs]
  | report => exact .same rfl fun r => by simp [hs]
  | _ => exact .same rfl hs

theorem OpenMove.links {stage : OpenStage} {a : Answer} (h : OpenMove p stage a q es nx)
    (hl : p.status = .opening → p.connection = none) : Links p q es nx := by
  cases h with
  | connect _ _ h => exact (h.links fun r => by simp).congr rfl
  | clientFailed a f _ h => exact (h.links fun r => by simp).congr rfl
  | install a client receiver _ ho =>
    refine ⟨fun c hc => ?_, fun r hr => ?_⟩
    · rw [hl ho] at hc
      cases hc
    · obtain rfl : r = receiver := by simpa [event] using hr
      exact ⟨client, rfl⟩
  | abandoned a f outcome h => exact (h.links fun r => by simp).congr rfl
  | pauseOver a wake h => exact h.links fun r => by simp
  | failedReleases e outcome c ho hc =>
    rw [hl ho] at hc
    cases hc
  | _ => exact .same rfl fun r => by simp

theorem StartMove.links (h : StartMove p q es nx) : Links p q es nx := by
  cases h <;> exact .same rfl fun r => by simp [event]

section Shutdown

variable {now ticket : Nat} {reason : CloseReason}

theorem PassMove.links {shown : List Effect} (h : PassMove p ticket reason shown q es nx)
    (hs : ∀ r, .install r ∉ shown) : Links p q es nx := by
  cases h <;> exact .same rfl fun r => by simp [hs]

theorem DisconnectMove.links (h : DisconnectMove p ticket reason q es nx) : Links p q es nx := by
  cases h with
  | release c hc =>
    refine ⟨fun d hd => .inr ?_, fun r hr => ?_⟩
    · obtain rfl : c = d := Option.some.inj (hc.symm.trans hd)
      exact ⟨by simp, ⟨ticket, reason, .release ⟨c, .clearHandler⟩⟩, rfl, rfl⟩
    · simp at hr
  | pass hc hp => exact (hp.links fun r => by simp).congr hc.symm

theorem RunMove.links (h : RunMove p now ticket reason q es nx) : Links p q es nx := by
  cases h with
  | disconnect _ _ hd => exact hd.links.congr rfl
  | _ => exact .same rfl fun r => by simp

theorem EnterMove.links (h : EnterMove p now ticket reason q es nx) : Links p q es nx := by
  cases h with
  | run _ _ hr => exact hr.links.congr rfl
  | _ => exact .same rfl fun r => by simp

theorem ShutdownMove.links {stage : ShutdownStage} {a : Answer}
    (h : ShutdownMove p now ticket reason stage a q es nx) : Links p q es nx := by
  cases h with
  | queuedRun _ hr => exact hr.links
  | disconnect _ _ _ hd => exact hd.links
  | releaseEnds r outcome _ hp => exact hp.links fun r => by simp
  | _ => exact .same rfl fun r => by simp

end Shutdown

theorem ReceiveMove.links {batch : Option Batch} (h : ReceiveMove p batch q es nx) :
    Links p q es nx := by
  cases h <;> exact .same rfl fun r => by simp

theorem FailureMove.links {e : TransportError} (h : FailureMove p e q es) : Links p q es .finish := by
  cases h <;> exact .same rfl fun r => by simp [event]

theorem DeliveryMove.links {stage : DeliveryStage} {a : Answer} (h : DeliveryMove p stage a es nx) :
    Links p p es nx := by
  cases h <;> exact .same rfl fun r => by simp [event]

end Pump

def Waiting.Clearing (w : Waiting) (r : Nat) : Prop :=
  ∃ ticket reason k, w.call = .shutdown ticket reason (.release ⟨⟨k, r⟩, .clearHandler⟩)

theorem Waiting.Clearing.request {w : Waiting} {r id : Nat} (h : w.Clearing r) (hf : w.Fits id) :
    w.request = some (.clearHandler r) := by
  obtain ⟨ticket, reason, k, hc⟩ := h
  exact (hf.of_shutdown hc).2.2.of_release

namespace Session

variable {s t : Session} {c : Cause}

/-! ## Calls in progress -/

theorem call?_take_of_ne (s : Session) {id j : Nat} (hn : j ≠ id) :
    (s.take j).call? id = s.call? id := by
  have hb : (id == j) = false := by simpa using hn.symm
  unfold call? take
  dsimp only
  generalize s.calls = xs
  induction xs with
  | nil => rfl
  | cons x xs ih =>
    obtain ⟨k, u⟩ := x
    by_cases hk : k = j
    · subst hk
      rw [List.eraseP_cons_of_pos (by simp), List.lookup_cons, hb]
    · rw [List.eraseP_cons_of_neg (by simpa using hk), List.lookup_cons, List.lookup_cons, ih]

theorem call?_carry_of_ne (s : Session) {id j : Nat} (hn : j ≠ id) (e : Errand) (q : Pump)
    (es : List Effect) (nx : Next) : (s.carry j e q es nx).call? id = s.call? id := by
  have hb : (id == j) = false := by simpa using hn.symm
  unfold call?
  rw [calls_carry]
  cases nx with
  | ask r c => exact (List.lookup_cons ..).trans (by rw [hb]; rfl)
  | wait c => exact (List.lookup_cons ..).trans (by rw [hb]; rfl)
  | _ => rfl

/-- A call that is told nothing waits on. -/
theorem Step.call?_eq (hi : s.Tidy) (h : s.Step c t) {id : Nat} {w : Waiting}
    (hw : s.call? id = some w) (hc : ∀ a, c ≠ .answer id a) (hk : c ≠ .wake id)
    (hd : c.isDrop = false) : t.call? id = some w := by
  have launch (b : Session) (hb : b.call? id = some w) (e : Errand) (q es nx) :
      (b.carry s.next e q es nx).call? id = some w := by
    have hn := hi.lt_next hw
    rw [b.call?_carry_of_ne (by omega)]
    exact hb
  have tell {j : Nat} {v : Waiting} {a : Answer} (ht : s.Tells j v a c) (e : Errand) (q es nx) :
      ((s.told j v a).carry j e q es nx).call? id = some w := by
    have hn : j ≠ id := by
      rintro rfl
      cases ht with
      | answer _ _ => exact hc a rfl
      | wake _ _ _ => exact hk rfl
    rw [call?_carry_of_ne _ hn]
    exact (s.call?_take_of_ne hn).trans hw
  cases h with
  | start => exact launch (s.begin .start) hw _ _ _ _
  | shutdown => exact launch (s.begin _) hw _ _ _ _
  | deliver => exact launch (s.begin _) hw _ _ _ _
  | fail => exact launch (s.begin _) hw _ _ _ _
  | report n => exact launch ((s.forget n).begin _) hw _ _ _ _
  | discard => exact hw
  | tellStart _ _ _ _ ht => exact tell ht _ _ _ _
  | tellShutdown _ _ _ _ _ _ ht => exact tell ht _ _ _ _
  | tellDelivery _ _ _ _ ht => exact tell ht _ _ _ _
  | tellReport _ _ _ _ ht => exact tell ht _ _ _ _
  | drop => cases hd
  | bump => exact hw
  | pass => exact hw

def delivers (s : Session) (id : Nat) : Prop := ∃ w stage, (id, w) ∈ s.calls ∧ w.call = .deliver stage

section Carry

variable {b : Session} {id j : Nat} {errand : Errand} {q : Pump} {es : List Effect} {nx : Next}

theorem delivers_carry (h : (b.carry id errand q es nx).delivers j) :
    b.delivers j ∨ j = id ∧ ∃ stage, nx.call? = some (.deliver stage) := by
  obtain ⟨w, stage, hm, hc⟩ := h
  rw [calls_carry, List.mem_append] at hm
  obtain hm | hm := hm
  · obtain ⟨v, hv, he⟩ := List.mem_map.1 hm
    obtain ⟨rfl, rfl⟩ := Prod.mk.inj he
    refine .inr ⟨rfl, stage, ?_⟩
    cases nx <;> simp [Next.waiting?] at hv <;> subst hv <;> exact congrArg some hc
  · exact .inl ⟨w, stage, hm, hc⟩

theorem delivers_told {w : Waiting} {a : Answer} (h : (b.told id w a).delivers j) : b.delivers j := by
  obtain ⟨v, stage, hm, hc⟩ := h
  exact ⟨v, stage, mem_of_mem_take hm, hc⟩

end Carry

/-- A delivery is in progress because it was before, or because it begins now. -/
theorem Step.delivers (hi : s.Tidy) (hd : c.isDrop = false) (h : s.Step c t) {j : Nat}
    (hj : t.delivers j) : s.delivers j ∨ j = s.next ∧ ∃ report batch, c = .deliver report batch := by
  have other {b : Session} {id : Nat} {e : Errand} {q es nx} (hf : nx.Fits id e)
      (he : ∀ batch, e ≠ .delivery batch) (hj : (b.carry id e q es nx).delivers j) : b.delivers j := by
    obtain hj | ⟨-, stage, hn⟩ := delivers_carry hj
    · exact hj
    · obtain ⟨r, hw⟩ := hf.of_call? hn
      obtain ⟨⟨batch, hb⟩, -⟩ := hw.of_deliver rfl
      exact absurd hb (he batch)
  cases h with
  | start hm => exact .inl (other (b := s.begin _) (hm.fits _) (by simp) hj)
  | shutdown reason hm => exact .inl (other (b := s.begin _) hm.fits (by simp) hj)
  | deliver report batch hm =>
    obtain hj | ⟨rfl, -⟩ := delivers_carry hj
    · exact .inl hj
    · exact .inr ⟨rfl, report, batch, rfl⟩
  | fail e hm => exact .inl (other (b := s.begin _) .finish (by simp) hj)
  | report n e he =>
    exact .inl (other (b := (s.forget n).begin _) (.ask (.report e)) (by simp) hj)
  | discard n hn => exact .inl hj
  | tellStart id w a stage ht hw hm =>
    have he := ((hi.fits_call ht.call?).of_start hw).1
    exact .inl (delivers_told (other (he ▸ hm.fits id) (by simp [he]) hj))
  | tellShutdown id w a ticket reason stage ht hw hm =>
    obtain ⟨he, rfl, -⟩ := (hi.fits_call ht.call?).of_shutdown hw
    exact .inl (delivers_told (other (he ▸ hm.fits) (by simp [he]) hj))
  | tellDelivery id w a stage ht hw hm =>
    obtain hj | ⟨rfl, -⟩ := delivers_carry hj
    · exact .inl (delivers_told hj)
    · exact .inl ⟨w, stage, mem_of_call? ht.call?, hw⟩
  | tellReport id w outcome ticket ht hw hm =>
    obtain ⟨rfl, -⟩ := (hi.fits_call ht.call?).of_report hw
    exact .inl (delivers_told (other hm.fits (by simp) hj))
  | drop => cases hd
  | bump => exact .inl hj
  | pass => exact .inl hj

/-! ## Receivers in service -/

/-- The pump holds this receiver, or a shutdown clears its handler. -/
def serves (s : Session) (r : Nat) : Prop :=
  (∃ c, s.pump.connection = some ⟨c, r⟩)
    ∨ ∃ t ∈ s.runners, ∃ c, t.stage = .release ⟨⟨c, r⟩, .clearHandler⟩

theorem serves_carry {b : Session} {id : Nat} {errand : Errand} {q : Pump} {es : List Effect}
    {nx : Next} {r : Nat} (h : b.serves r) (hl : b.pump.Links q es nx) :
    (b.carry id errand q es nx).serves r := by
  unfold serves
  rw [pump_carry, Next.connection_leave, runners_carry]
  obtain ⟨c, hc⟩ | ⟨t, ht, c, he⟩ := h
  · obtain hc | ⟨-, t, ht, he⟩ := hl.kept _ hc
    · exact .inl ⟨c, hc⟩
    · exact .inr ⟨t, List.mem_append_left _ (Option.mem_toList.2 ht), c, he⟩
  · exact .inr ⟨t, List.mem_append_right _ ht, c, he⟩

/-- A receiver stays in service until the call that clears its handler is answered. -/
theorem Step.serves (hi : s.InTurn) (hl : s.Settled) (hd : c.isDrop = false) (h : s.Step c t) {r : Nat}
    (hs : s.serves r) :
    t.serves r ∨ ∃ id w a, c = .answer id a ∧ s.call? id = some w ∧ w.Clearing r := by
  have told {id : Nat} {w : Waiting} {a : Answer} (hr : (s.told id w a).runners = s.runners) :
      (s.told id w a).serves r := by
    unfold Session.serves
    rw [hr]
    exact hs
  cases h with
  | start hm => exact .inl (serves_carry (b := s.begin _) hs hm.links)
  | shutdown reason hm => exact .inl (serves_carry (b := s.begin _) hs hm.links)
  | deliver report batch hm => exact .inl (serves_carry (b := s.begin _) hs hm.links)
  | fail e hm => exact .inl (serves_carry (b := s.begin _) hs hm.links)
  | report n e he =>
    exact .inl (serves_carry (b := (s.forget n).begin _) hs (.same rfl fun r => by simp))
  | discard n hn => exact .inl hs
  | tellStart id w a stage ht hw hm =>
    obtain ⟨-, -, -, hr⟩ := hi.told_start ht hw
    exact .inl (serves_carry (told hr) (hm.links hl.of_opening))
  | tellShutdown id w a ticket reason stage ht hw hm =>
    obtain ⟨-, rfl, -, ⟨-, -, -, -, hr⟩ | ⟨-, -, hr, -⟩⟩ := hi.told_shutdown ht hw hm
    · exact .inl (serves_carry (told hr) hm.links)
    · obtain hc | ⟨u, hu, c, he⟩ := hs
      · exact .inl (serves_carry (b := s.told ticket w a) (.inl hc) hm.links)
      · rw [hr] at hu
        obtain rfl := List.mem_singleton.1 hu
        obtain rfl : stage = .release ⟨⟨c, r⟩, .clearHandler⟩ := he
        cases ht with
        | answer hw' _ => exact .inr ⟨_, w, a, rfl, hw', _, reason, c, hw⟩
        | wake hw' hr' _ =>
          rw [((hi.tidy.fits_call hw').of_shutdown hw).2.2.of_release] at hr'
          cases hr'
  | tellDelivery id w a stage ht hw hm =>
    obtain ⟨-, -, hr⟩ := hi.told_delivery ht hw
    exact .inl (serves_carry (told hr) hm.links)
  | tellReport id w outcome ticket ht hw hm =>
    obtain ⟨rfl, -, -, hr⟩ := hi.told_report ht hw
    exact .inl (serves_carry (told hr) hm.links)
  | drop => cases hd
  | bump => exact .inl hs
  | pass => exact .inl hs

/-- Shutdown has not passed the closing hook, and the pump is not closed, while a receiver is in
service. -/
theorem Settled.of_serves (hl : s.Settled) {r : Nat} (h : s.serves r) :
    s.pump.passed = none ∧ s.pump.status ≠ .closed := by
  obtain ⟨c, hc⟩ | ⟨u, hu, c, he⟩ := h
  · have hs := hl.linked (by rw [hc]; rfl)
    have hp := hl.passed
    cases hq : s.pump.passed with
    | none =>
      refine ⟨rfl, fun hn => ?_⟩
      rw [hn] at hs
      obtain hs | hs := hs <;> cases hs
    | some reason =>
      have hp := hp (by rw [hq]; rfl)
      obtain hs | hs := hs <;> rw [hs] at hp <;> obtain hp | hp := hp <;> cases hp
  · have ht := hl.turns u hu
    unfold Turn.Sound at ht
    rw [he] at ht
    refine ⟨ht.1, ?_⟩
    rw [ht.2]
    simp

/-! ## What a step does to the handlers -/

/-- A handler is installed on the receiver of the pump's connection, and cleared when the connection is
taken out. -/
theorem Step.handles (hl : s.Settled) (hd : c.isDrop = false) (h : s.Step c t) :
    ∃ ms, t.history = s.history ++ ms
      ∧ (∀ r, .install r ∈ effects ms → ∃ k, t.pump.connection = some ⟨k, r⟩)
      ∧ ∀ k, s.pump.connection = some k →
        t.pump.connection = some k ∨ .ask (.clearHandler k.receiver) ∈ effects ms := by
  have carry (b : Session) (ms : List Mark) (hb : b.history = s.history ++ ms) (hms : effects ms = [])
      (id : Nat) (e : Errand) {q es nx} (hm : s.pump.Links q es nx) :
      ∃ ms, (b.carry id e q es nx).history = s.history ++ ms
        ∧ (∀ r, .install r ∈ effects ms → ∃ k, (b.carry id e q es nx).pump.connection = some ⟨k, r⟩)
        ∧ ∀ k, s.pump.connection = some k → (b.carry id e q es nx).pump.connection = some k
          ∨ .ask (.clearHandler k.receiver) ∈ effects ms := by
    obtain ⟨ks, hk, he⟩ := exists_effects_carry id e q es nx hb hms
    rw [pump_carry, Next.connection_leave]
    exact ⟨ks, hk, fun r hr => hm.installed r (he ▸ hr),
      fun k hc => (hm.kept k hc).imp_right fun hx => he.symm ▸ hx.1⟩
  have still {ms : List Mark} (he : effects ms = []) (hp : t.pump.connection = s.pump.connection)
      (hh : t.history = s.history ++ ms) :
      ∃ ms, t.history = s.history ++ ms
        ∧ (∀ r, .install r ∈ effects ms → ∃ k, t.pump.connection = some ⟨k, r⟩)
        ∧ ∀ k, s.pump.connection = some k →
          t.pump.connection = some k ∨ .ask (.clearHandler k.receiver) ∈ effects ms :=
    ⟨ms, hh, by simp [he], fun k hk => .inl (hp.trans hk)⟩
  cases h with
  | start hm => exact carry (s.begin _) _ rfl rfl _ _ hm.links
  | shutdown reason hm => exact carry (s.begin _) _ rfl rfl _ _ hm.links
  | deliver report batch hm => exact carry (s.begin _) _ rfl rfl _ _ hm.links
  | fail e hm => exact carry (s.begin _) _ rfl rfl _ _ hm.links
  | report n e he =>
    exact carry ((s.forget n).begin _) _ rfl rfl _ _ (.same rfl fun r => by simp)
  | discard n hn => exact still rfl rfl (List.append_nil _).symm
  | tellStart id w a stage ht hw hm =>
    exact carry (s.told id w a) _ rfl (effects_marks ..) _ _ (hm.links hl.of_opening)
  | tellShutdown id w a ticket reason stage ht hw hm =>
    exact carry (s.told id w a) _ rfl (effects_marks ..) _ _ hm.links
  | tellDelivery id w a stage ht hw hm =>
    exact carry (s.told id w a) _ rfl (effects_marks ..) _ _ hm.links
  | tellReport id w outcome ticket ht hw hm =>
    exact carry (s.told id w _) _ rfl (effects_marks ..) _ _ hm.links
  | drop => cases hd
  | bump => exact still rfl rfl (List.append_nil _).symm
  | pass => exact still rfl rfl rfl

/-! ## Transports that keep their contract -/

/-- The transport keeps its contract at this step, and no call is dropped: deliveries come from a
receiver in service, and when a shutdown is told that the handler is cleared no delivery is in
progress. -/
structure Fair (s : Session) (c : Cause) : Prop where
  undropped : c.isDrop = false
  serves : ∀ report batch, c = .deliver report batch → ∃ r, s.serves r
  drained : ∀ id a w r, c = .answer id a → s.call? id = some w → w.Clearing r → ∀ j, ¬ s.delivers j

def RunsFairly (s : Session) : List Cause → Prop
  | [] => True
  | c :: cs => s.Fair c ∧ ∀ t, s.step? c = some t → t.RunsFairly cs

/-- What every fair step keeps holds at the end of every fair run. -/
theorem RunsFairly.induction {P : Session → Prop} {cs : List Cause} (hf : s.RunsFairly cs) (h0 : P s)
    (hs : ∀ s c t, s.Fair c → P s → s.step? c = some t → P t) (h : s.run cs = some t) : P t := by
  induction cs generalizing s with
  | nil => exact Option.some.inj h ▸ h0
  | cons c cs ih =>
    obtain ⟨u, hu, h⟩ := Option.bind_eq_some_iff.1 h
    exact ih (hf.2 u hu) (hs s c u hf.1 h0 hu) h

theorem RunsFairly.snoc {cs : List Cause} {c : Cause} (hf : s.RunsFairly cs) (h : s.run cs = some t)
    (hc : t.Fair c) : s.RunsFairly (cs ++ [c]) := by
  induction cs generalizing s with
  | nil =>
    obtain rfl := Option.some.inj h
    exact ⟨hc, fun _ _ => trivial⟩
  | cons d cs ih =>
    obtain ⟨u, hu, h⟩ := Option.bind_eq_some_iff.1 h
    refine ⟨hf.1, fun v hv => ?_⟩
    obtain rfl := Option.some.inj (hu.symm.trans hv)
    exact ih (hf.2 u hu) h

def Tended (s : Session) : Prop := ∀ id, s.delivers id → ∃ r, s.serves r

theorem Tended.step (hi : s.InTurn) (hl : s.Settled) (h : s.Tended) (hf : s.Fair c) (hs : s.Step c t) :
    t.Tended := by
  intro j hj
  obtain hd | ⟨rfl, report, batch, rfl⟩ := hs.delivers hi.tidy hf.undropped hj
  · obtain ⟨r, hr⟩ := h j hd
    obtain hr | ⟨id, w, a, he, hw, hc⟩ := hs.serves hi hl hf.undropped hr
    · exact ⟨r, hr⟩
    · exact absurd hd (hf.drained id a w r he hw hc j)
  · obtain ⟨r, hr⟩ := hf.serves report batch rfl
    obtain hr | ⟨id, w, a, he, -⟩ := hs.serves hi hl hf.undropped hr
    · exact ⟨r, hr⟩
    · cases he

/-- A pump that is closed has no delivery in progress. -/
theorem Tended.not_delivers (h : s.Tended) (hl : s.Settled) (hc : s.pump.status = .closed) (j : Nat) :
    ¬ s.delivers j := by
  intro hd
  obtain ⟨r, hr⟩ := h j hd
  exact (hl.of_serves hr).2 hc

end Session
end PartitionConsumer
