import PartitionConsumer.Proofs.Stream.Passage
import PartitionConsumer.Proofs.Stream.Serving
/-!
# The stream of batches

A pump that runs, on a receiver that is given one delivery after the other, does what the passage of each
delivery says, and nothing else: no batch is lost, doubled or reordered between the receiver, the
normalisation and the batch hook, and whatever the hooks return the next delivery finds the pump as the last
one did.
-/
namespace PartitionConsumer

inductive Pump.IntakeMove (p : Pump) (messages : Option Batch) : Pump → List Effect → Next → Prop where
  | hand (tail : Option TailReport) (batch : Batch) (h : p.options.normalised messages = some batch) :
    IntakeMove p messages { p with context := { p.context with tail } } [.ask (.hook (.onEvents batch))]
      (.ask (.hook (.onEvents batch)) (.deliver (.onEvents batch.length)))
  | skip (tail : Option TailReport) (h : p.options.normalised messages = none) :
    IntakeMove p messages { p with context := { p.context with tail } } [] .finish

theorem Pump.goes_receive_open (p : Pump) (hp : p.status.isClosingOrClosed = false)
    (report : Option TailReport) (messages : Option Batch) :
    p.Goes (p.receive report messages) (IntakeMove p.untraced messages) := by
  unfold receive
  obtain ⟨tail, ht⟩ := exists_tail p p.options.metricsEnabled report
  rw [ht]
  refine goes_quiet (q := { p with context := { p.context with tail } }) rfl ?_
  have hand (batch : Batch) (h : p.options.normalised messages = some batch) :
      Goes { p with context := { p.context with tail } }
        (handleBatch { p with context := { p.context with tail } } batch) (IntakeMove p.untraced messages) :=
    goes_handleBatch _ _ _ (fun hc => absurd (hp.symm.trans hc) nofun) fun _ => .hand tail batch h
  dsimp only
  split
  · exact hand _ rfl
  · rename_i hne
    have hn : p.options.normalised messages = if p.options.invokeOnEmpty then some [] else none := by
      rcases messages with _ | ⟨_ | ⟨m, ms⟩⟩
      · rfl
      · rfl
      · exact absurd rfl (hne m ms)
    split
    · rename_i ho
      exact hand [] (by rw [hn, if_pos ho])
    · rename_i ho
      exact ⟨[], by simp, .skip tail (by rw [Pump.untraced]; exact hn.trans (if_neg ho))⟩

theorem Session.step_of_deliver {s t : Session} (hp : s.pump.trace = [])
    (hr : s.pump.status.isClosingOrClosed = false) {report : Option TailReport} {messages : Option Batch}
    (h : s.step? (.deliver report messages) = some t) :
    ∃ q es nx, t = (s.begin (.delivery messages)).carry s.next (.delivery messages) q es nx
      ∧ s.pump.IntakeMove messages q es nx := by
  obtain ⟨q, es, nx, he, hm⟩ := (s.begin (.delivery messages)).move_eq_carry hp
    (s.pump.goes_receive_open hr report messages) s.next (.delivery messages)
  rw [Pump.untraced_of_trace hp] at hm
  exact ⟨q, es, nx, (Option.some.inj h).symm.trans he, hm⟩

theorem Session.call?_of_calls {s : Session} {id : Nat} {w : Waiting} (h : s.calls = [(id, w)]) :
    s.call? id = some w := by simp [call?, h]

/-- Of what does not concern the transport only the hooks' returns are seen by a pump that runs on. -/
theorem Session.Step.own_of_running {s t : Session} {c : Cause} (hi : s.Led) (hb : s.pump.Braced)
    (ha : s.pump.Afloat) (hs : s.Sheltered) (h : s.Step c t) (hc : c.isOwn = true)
    (hr : s.pump.status = .running) (ht : t.pump.status = .running) :
    (∃ id w outcome, c = .answer id (.hook outcome) ∧ (id, w) ∈ s.calls)
      ∨ t.calls = s.calls ∧ ∃ ms, t.history = s.history ++ ms ∧ deeds ms = [] := by
  have plain {id : Nat} {w : Waiting} {a : Answer} (hw : s.Tells id w a c) :
      ∃ stage, w.call = .deliver stage := hs.delivers hi ha hr (mem_of_call? hw.call?)
  cases h with
  | start hm =>
    obtain ⟨rfl, rfl, rfl⟩ := hm.refused (.inr (by rw [hr]; nofun))
    exact .inr ⟨rfl, _, history_carry_of _ _ _ _ _ rfl, rfl⟩
  | shutdown reason hm =>
    rw [pump_carry, Next.status_leave] at ht
    exact absurd ht (hm.leaves_running hr hb ha)
  | report n e he =>
    rw [(hs (ha (.inl hr)).1 (by rw [hr]; nofun)).deferred] at he
    cases he
  | discard n hn => exact .inr ⟨rfl, [], (List.append_nil _).symm, rfl⟩
  | tellDelivery id w a stage hw hstage hm =>
    obtain ⟨-, hasks⟩ := (hi.tidy.fits_call hw.call?).of_deliver hstage
    obtain ⟨call, hq⟩ : ∃ call, w.request = some (.hook call) := by
      generalize hrq : w.request = request at hasks
      cases hasks <;> exact ⟨_, rfl⟩
    obtain ⟨outcome, rfl, rfl⟩ := hw.of_hook hq
    exact .inl ⟨id, w, outcome, rfl, mem_of_call? hw.call?⟩
  | tellStart id w a stage hw hstage hm | tellShutdown id w a ticket reason stage hw hstage hm
    | tellReport id w outcome ticket hw hstage hm =>
    obtain ⟨stage', hstage'⟩ := plain hw
    cases hstage.symm.trans hstage'
  | bump => exact .inr ⟨rfl, [], (List.append_nil _).symm, rfl⟩
  | pass ticks => exact .inr ⟨rfl, _, rfl, rfl⟩
  | deliver | fail | drop => cases hc

/-- A delivery is told that a hook has returned. -/
theorem Session.step_of_answer {s t : Session} (hi : s.Tidy) {id : Nat} {w : Waiting} {stage : DeliveryStage}
    {a : Answer} (hw : s.call? id = some w) (hc : w.call = .deliver stage)
    (h : s.step? (.answer id a) = some t) :
    ∃ es nx, t = (s.told id w a).carry id w.errand s.pump es nx ∧ s.pump.DeliveryMove stage a es nx := by
  have this {id' : Nat} {w' : Waiting} {a' : Answer} (ht : s.Tells id' w' a' (.answer id a)) :
      id' = id ∧ w' = w ∧ a' = a := by
    cases ht with
    | answer hw' _ => exact ⟨rfl, Option.some.inj (hw'.symm.trans hw), rfl⟩
  have hs := step_of_step? hi.trace h
  cases hs with
  | tellDelivery _ _ _ stage' ht hw' hm =>
    obtain ⟨rfl, rfl, rfl⟩ := this ht
    obtain rfl := Call.deliver.inj (hw'.symm.trans hc)
    exact ⟨_, _, rfl, hm⟩
  | tellStart _ _ _ _ ht hw' =>
    obtain ⟨rfl, rfl, rfl⟩ := this ht
    cases hw'.symm.trans hc
  | tellShutdown _ _ _ _ _ _ ht hw' =>
    obtain ⟨rfl, rfl, rfl⟩ := this ht
    cases hw'.symm.trans hc
  | tellReport _ _ _ _ ht hw' =>
    obtain ⟨rfl, rfl, -⟩ := this ht
    cases hw'.symm.trans hc

/-- A lock that nobody can hold or wait for is free. -/
theorem SharedLock.eq_empty_of_within {l : SharedLock} {rs ws : Nat → Prop} (h : l.Within rs ws)
    (hr : ∀ t, ¬ rs t) (hw : ∀ t, ¬ ws t) : l = {} := by
  obtain ⟨readers, writer, waiting⟩ := l
  obtain rfl : readers = [] := List.eq_nil_iff_forall_not_mem.2 fun t ht => hr t (h.readers t ht)
  obtain rfl : waiting = [] := by
    refine List.eq_nil_iff_forall_not_mem.2 fun ⟨t, mode⟩ ht => ?_
    cases mode with
    | shared => exact hr t (h.shared t ht)
    | exclusive => exact hw t (h.exclusive t ht)
  cases writer with
  | none => rfl
  | some t => exact absurd (h.writer t rfl) (hw t)

namespace Place

def visits (r : Nat) : Place → List Visit
  | idle => []
  | waiting ticket messages => [⟨ticket, r, .batch messages, none⟩]
  | handling ticket id messages _ | blaming ticket id messages _ _ => [⟨ticket, r, .batch messages, some id⟩]
  | ended ticket id h => [⟨ticket, r, .batch h.messages, some id⟩]

def calls : Place → List (Nat × Waiting)
  | handling _ id messages batch =>
    [(id, ⟨.delivery messages, .deliver (.onEvents batch.length), some (.hook (.onEvents batch))⟩)]
  | blaming _ id messages _ e =>
    [(id, ⟨.delivery messages, .deliver .onError, some (.hook (.onError (.processor e)))⟩)]
  | _ => []

def entered (o : Options) (id : Nat) : Place → Place
  | waiting ticket messages =>
    match o.normalised messages with
    | some batch => handling ticket id messages batch
    | none => ended ticket id { messages }
  | p => p

def answered (outcome : Except ProcessorError Unit) : Place → Place
  | handling ticket id messages batch =>
    match outcome with
    | .ok () => ended ticket id { messages }
    | .error e => blaming ticket id messages batch e
  | blaming ticket id messages _ e =>
    ended ticket id { messages, outcome := .error e, afterwards := outcome }
  | p => p

end Place

def Stimulus.arrival? : Stimulus → Option (Option Batch)
  | .arrive _ (.batch messages) => some messages
  | _ => none

def arrivals (xs : List Stimulus) : List (Option Batch) := xs.filterMap Stimulus.arrival?

@[simp] theorem arrivals_append (xs ys : List Stimulus) : arrivals (xs ++ ys) = arrivals xs ++ arrivals ys :=
  List.filterMap_append

namespace Bench

/-- Whether deliveries are made one after the other: each brings a batch to the receiver `r`, when no other is
on its way. -/
def inSingleFile (b : Bench) (r : Nat) : Stimulus → Bool
  | .arrive s (.batch _) => s == r && b.visits.isEmpty
  | .arrive _ (.failure _) => false
  | _ => true

/-- Whether the pump runs in every state of a run, and deliveries are made one after the other. -/
def streams (r : Nat) (b : Bench) : List Stimulus → Bool
  | [] => b.session.pump.isRunning
  | x :: xs => b.session.pump.isRunning && b.inSingleFile r x && (b.step? x).elim true (·.streams r xs)

variable {o : Options} {partition : String} {r : Nat} {b b' : Bench} {x : Stimulus} {p q : Place}

/-- A pump that runs and whose receiver `r` has the handler, with one delivery on its way at most. -/
structure Serves (o : Options) (partition : String) (r : Nat) (p : Place) (b : Bench) : Prop
    extends b.Regular where
  running : b.session.pump.status = .running
  handled : b.transport.handled r = true
  options : b.session.pump.options = o
  partition : b.session.pump.partition = partition
  visits : b.visits = p.visits r
  calls : b.session.calls = p.calls
  sound : p.Sound o

namespace Serves

/-- Deliveries bring batches here, so only a shutdown takes the pump out of service. -/
theorem step_of (h : Serves o partition r p b) (hs : b.Step x b') :
    b'.session.pump.status ≠ .running ∧ (∃ reason, x = .own (.shutdown reason)) ∨ b.Unmoved b' := by
  obtain ⟨hn, hx | ⟨v, hv, e, -, hp, -⟩⟩ | hu := h.step_of_running h.running hs
  · exact .inl ⟨hn, hx⟩
  · rw [h.visits] at hv
    cases p with
    | idle => cases hv
    | _ =>
      obtain rfl := List.mem_singleton.1 hv
      cases hp
  · exact .inr hu

/-- The pump still runs after anything but a call for shutdown. -/
theorem running_of_step (h : Serves o partition r p b) (hs : b.Step x b')
    (hx : ∀ reason, x ≠ .own (.shutdown reason)) : b'.session.pump.status = .running := by
  obtain ⟨-, reason, he⟩ | hu := h.step_of hs
  · exact absurd he (hx reason)
  · exact hu.status.trans h.running

/-- The delivery is somewhere else, and the rest is as it was. -/
theorem next (h : Serves o partition r p b) (hs : b.Step x b') (hr : b'.session.pump.status = .running)
    (hv : b'.visits = q.visits r) (hc : b'.session.calls = q.calls) (hq : q.Sound o) :
    Serves o partition r q b' := by
  obtain ⟨hn, -⟩ | hu := h.step_of hs
  · exact absurd hr hn
  · exact ⟨h.toRegular.step hs, hr, (hu.handled r).trans h.handled, hu.options.trans h.options,
      hu.partition.trans h.partition, hv, hc, hq⟩

/-- A delivery arrives when none is on its way, and has its share of the lock at once. -/
theorem arrive (h : Serves o partition r .idle b) {messages : Option Batch}
    (hs : b.Step (.arrive r (.batch messages)) b') :
    Serves o partition r (.waiting b.next messages) b' ∧ b'.session = b.session
      ∧ b'.isInside r b.next = true := by
  have hnext := h.next (q := .waiting b.next messages) hs
  cases hs with
  | arrive _ _ hr =>
    refine ⟨hnext h.running (by rw [h.visits]; rfl) h.calls trivial, rfl, ?_⟩
    have hget := Array.getElem?_eq_getElem hr
    -- nobody has the lock, and nobody waits for it
    have hw := h.guarded.locks.within r b.transport.receivers[r].lock (by rw [Transport.lock?, hget]; rfl)
    have hfree : b.transport.receivers[r].lock = {} := by
      refine SharedLock.eq_empty_of_within hw (fun t ht => ?_) fun t ht => ?_
      · obtain ⟨v, hv, -⟩ := ht
        rw [h.visits] at hv
        cases hv
      · obtain ⟨d, hd, -⟩ := ht
        rw [h.drains_eq_nil h.running] at hd
        cases hd
    have hafter : (b.modify r (·.enterDelivery b.next)).transport.receivers[r]?
        = some (b.transport.receivers[r].enterDelivery b.next) := by
      refine (Array.getElem?_modify ..).trans ?_
      rw [if_pos rfl, hget]
      rfl
    have hinside : (b.modify r (·.enterDelivery b.next)).isInside r b.next = true := by
      rw [isInside, hafter, Option.any_some, Receiver.isInside, Receiver.enterDelivery, hfree]
      simp [SharedLock.request, SharedLock.grant, SharedLock.admits, SharedLock.hold, SharedLock.isHeldBy]
    exact hinside

theorem not_closing (h : Serves o partition r p b) : b.session.pump.status.isClosingOrClosed = false := by
  rw [h.running]
  rfl

/-- The delivery that has its share of the lock finds the handler, and makes its call. -/
theorem enter {ticket : Nat} {messages : Option Batch} {report : Option TailReport}
    (h : Serves o partition r (.waiting ticket messages) b) (hs : b.Step (.enter ticket report) b') :
    Serves o partition r ((Place.waiting ticket messages).entered o b.session.next) b'
      ∧ ∃ ms, b'.session.history = b.session.history ++ ms
        ∧ Place.Moves o partition (.waiting ticket messages) [] (deeds ms)
          ((Place.waiting ticket messages).entered o b.session.next) := by
  have hnext := fun q => h.next (q := q) hs (h.running_of_step hs nofun)
  have only {v : Visit} (hv : v ∈ b.visits) : v = ⟨ticket, r, .batch messages, none⟩ := by
    rw [h.visits] at hv
    exact List.mem_singleton.1 hv
  cases hs with
  | depart report v hv hc hl hh =>
    have hhandled := h.handled
    rw [Transport.handled, ← show v.receiver = r by rw [only hv], hh] at hhandled
    cases hhandled
  | fail report v e hv hc hl hh hp hf =>
    rw [only hv] at hp
    cases hp
  | deliver report v parcel hv hc hl hh hp hf =>
    obtain rfl : messages = parcel := by
      rw [only hv] at hp
      exact Parcel.batch.inj hp
    have hvisits : b'.visits = [⟨v.ticket, r, .batch messages, some b.session.next⟩] := by
      rw [hf.visits, handIn, h.visits, Place.visits, only hv]
      simp
    obtain ⟨q, es, nx, ht, hm⟩ := Session.step_of_deliver h.inTurn.tidy.trace h.not_closing hf.session
    have hcalls : b.session.calls = [] := h.calls
    cases hm with
    | hand tail batch hn =>
      have he : (Place.waiting v.ticket messages).entered o b.session.next
          = .handling v.ticket b.session.next messages batch := by
        rw [Place.entered, ← h.options, hn]
      rw [h.options] at hn
      rw [he]
      refine ⟨hnext _ hvisits ?_ hn, _, ht ▸ Session.history_carry_of _ _ _ _ _ rfl, .hand hn⟩
      rw [ht, Session.calls_carry]
      exact congrArg (_ :: ·) hcalls
    | skip tail hn =>
      have he : (Place.waiting v.ticket messages).entered o b.session.next
          = .ended v.ticket b.session.next { messages } := by
        rw [Place.entered, ← h.options, hn]
      rw [h.options] at hn
      rw [he]
      refine ⟨hnext _ hvisits ?_ trivial, _, ht ▸ Session.history_carry_of _ _ _ _ _ rfl, .skip hn⟩
      rw [ht, Session.calls_carry]
      exact hcalls

/-- A hook returns to the delivery that is on its way. -/
theorem answer (h : Serves o partition r p b) {id : Nat} {w : Waiting} {outcome : Except ProcessorError Unit}
    (hw : (id, w) ∈ p.calls) (hs : b.Step (.own (.answer id (.hook outcome))) b') :
    Serves o partition r (p.answered outcome) b'
      ∧ ∃ ms, b'.session.history = b.session.history ++ ms
        ∧ Place.Moves o partition p [] (deeds ms) (p.answered outcome) := by
  have hnext := fun q => h.next (q := q) hs (h.running_of_step hs nofun)
  obtain rfl := h.partition
  cases hs with
  | own _ _ hf =>
    have hvisits := hf.visits.trans h.visits
    cases p with
    | handling ticket id' messages batch =>
      obtain ⟨rfl, rfl⟩ := Prod.mk.inj (List.mem_singleton.1 hw)
      obtain ⟨es, nx, ht, hm⟩ :=
        Session.step_of_answer h.inTurn.tidy (Session.call?_of_calls h.calls) rfl hf.session
      have hcalls : (b.session.take id).calls = [] := by simp [Session.take, h.calls, Place.calls]
      cases hm with
      | handled =>
        refine ⟨hnext (.ended ticket id { messages }) hvisits ?_ trivial, _,
          ht ▸ Session.history_carry_of _ _ _ _ _ rfl, .handled⟩
        rw [ht, Session.calls_carry]
        exact hcalls
      | failed _ e =>
        refine ⟨hnext (.blaming ticket id messages batch e) hvisits ?_ h.sound, _,
          ht ▸ Session.history_carry_of _ _ _ _ _ rfl, .failed e⟩
        rw [ht, Session.calls_carry]
        exact congrArg (_ :: ·) hcalls
    | blaming ticket id' messages batch e =>
      obtain ⟨rfl, rfl⟩ := Prod.mk.inj (List.mem_singleton.1 hw)
      obtain ⟨es, nx, ht, hm⟩ :=
        Session.step_of_answer h.inTurn.tidy (Session.call?_of_calls h.calls) rfl hf.session
      have hcalls : (b.session.take id).calls = [] := by simp [Session.take, h.calls, Place.calls]
      cases hm with
      | reported =>
        refine ⟨hnext (.ended ticket id { messages, outcome := .error e, afterwards := outcome }) hvisits ?_
          trivial, _, ht ▸ Session.history_carry_of _ _ _ _ _ rfl, .reported outcome⟩
        rw [ht, Session.calls_carry]
        exact hcalls
    | _ => cases hw

/-- The delivery whose call has returned goes. -/
theorem leave {ticket id : Nat} {g : Handover} (h : Serves o partition r (.ended ticket id g) b)
    (hs : b.Step (.leave ticket) b') :
    Serves o partition r .idle b' ∧ b'.session = b.session := by
  have hnext := h.next (q := .idle) hs
  cases hs with
  | leave v id' hv hc hn =>
    refine ⟨hnext h.running ?_ h.calls trivial, rfl⟩
    rw [depart, h.visits]
    simp [Place.visits]

theorem visits_eq_nil (h : Serves o partition r p b) (hv : b.visits = []) : p = .idle := by
  rw [h.visits] at hv
  cases p <;> first | rfl | cases hv

/-- Whatever happens next to a pump that runs on, it is what the passage of the delivery says. -/
theorem step (h : Serves o partition r p b) (hs : b.Step x b') (hx : b.inSingleFile r x = true)
    (hr : b'.session.pump.status = .running) :
    ∃ q ms, Serves o partition r q b' ∧ b'.session.history = b.session.history ++ ms
      ∧ Place.Moves o partition p (arrivals [x]) (deeds ms) q := by
  have nothing {id : Nat} {y : Request} (hq : b.request? id = some y) (hn : ∀ call, y ≠ .hook call) :
      False := by
    obtain ⟨call, hc⟩ := h.hook_of_request? h.running hq
    exact hn call hc
  have stays (hv : b'.visits = b.visits) (hc : b'.session.calls = b.session.calls) :
      Serves o partition r p b' := h.next hs hr (hv.trans h.visits) (hc.trans h.calls) h.sound
  have entering {v : Visit} {report : Option TailReport} (hv : v ∈ b.visits) (hc : v.call = none)
      (hs : b.Step (.enter v.ticket report) b') :
      ∃ q ms, Serves o partition r q b' ∧ b'.session.history = b.session.history ++ ms
        ∧ Place.Moves o partition p (arrivals [.enter v.ticket report]) (deeds ms) q := by
    rw [h.visits] at hv
    cases p with
    | idle => cases hv
    | waiting ticket messages =>
      obtain rfl := List.mem_singleton.1 hv
      obtain ⟨hserves, ms, hms, hmove⟩ := h.enter hs
      exact ⟨_, ms, hserves, hms, hmove⟩
    | _ =>
      obtain rfl := List.mem_singleton.1 hv
      cases hc
  have hs' := hs
  cases hs with
  | own c hc hf =>
    obtain ⟨id, w, outcome, rfl, hw⟩ | ⟨hcalls, ms, hms, hd⟩ :=
      (Session.step_of_step? h.inTurn.tidy.trace hf.session).own_of_running h.inTurn.toLed h.braced h.afloat
        h.sheltered hc h.running hr
    · obtain ⟨hserves, ms, hms, hmove⟩ := h.answer (h.calls ▸ hw) hs'
      exact ⟨_, ms, hserves, hms, hmove⟩
    · exact ⟨p, ms, stays hf.visits hcalls, hms, hd ▸ .stay p⟩
  | noClient id e hq hf => exact (nothing hq nofun).elim
  | client id hq hf => exact (nothing hq nofun).elim
  | noReceiver id client request e hq hf => exact (nothing hq nofun).elim
  | receiver id client request hq hf => exact (nothing hq nofun).elim
  | close id error hq hf =>
    obtain ⟨r, hq⟩ | ⟨c, hq⟩ := hq <;> exact (nothing hq nofun).elim
  | pass id r hq hd => exact (nothing hq nofun).elim
  | drain error d hd hl hf =>
    rw [h.drains_eq_nil h.running] at hd
    cases hd
  | arrive s parcel hsize =>
    cases parcel with
    | failure e => cases hx
    | batch messages =>
      obtain ⟨rfl, hv⟩ : s = r ∧ b.visits = [] := by simpa [inSingleFile] using hx
      obtain rfl := h.visits_eq_nil hv
      exact ⟨_, [], (h.arrive hs').1, (List.append_nil _).symm, .arrive b.next messages⟩
  | depart report v hv hc hl hh => exact entering hv hc hs'
  | deliver report v messages hv hc hl hh hp hf => exact entering hv hc hs'
  | fail report v e hv hc hl hh hp hf => exact entering hv hc hs'
  | leave v id hv hc hn =>
    rw [h.visits] at hv
    cases p with
    | idle => cases hv
    | waiting ticket messages =>
      obtain rfl := List.mem_singleton.1 hv
      cases hc
    | handling ticket id' messages batch | blaming ticket id' messages batch e =>
      obtain rfl := List.mem_singleton.1 hv
      obtain rfl := Option.some.inj hc
      rw [Session.call?_of_calls h.calls] at hn
      cases hn
    | ended ticket id' g =>
      obtain rfl := List.mem_singleton.1 hv
      exact ⟨_, [], (h.leave hs').1, (List.append_nil _).symm, .leave⟩
  | gate s isOpen => exact ⟨p, [], stays rfl rfl, (List.append_nil _).symm, .stay p⟩

end Serves

/-! ## Runs -/

structure Conducts (r : Nat) (b : Bench) (xs : List Stimulus) (c : Bench) (ms : List Mark) : Prop where
  run : b.run xs = some c
  streams : b.streams r xs = true
  history : c.session.history = b.session.history ++ ms

namespace Conducts

variable {c d : Bench} {xs ys : List Stimulus} {ms ns : List Mark}

theorem one (hx : b.step? x = some c) (hb : b.session.pump.status = .running) (ho : b.inSingleFile r x = true)
    (hc : c.session.pump.status = .running) (hh : c.session.history = b.session.history ++ ms) :
    b.Conducts r [x] c ms := by
  refine ⟨?_, ?_, hh⟩
  · rw [Bench.run, hx]
    rfl
  · simp [Bench.streams, Pump.isRunning, hb, ho, hx, hc]

theorem nil (hb : b.session.pump.status = .running) : b.Conducts r [] b [] :=
  ⟨rfl, beq_iff_eq.2 hb, (List.append_nil _).symm⟩

theorem trans (h : b.Conducts r xs c ms) (k : c.Conducts r ys d ns) :
    b.Conducts r (xs ++ ys) d (ms ++ ns) := by
  refine ⟨?_, ?_, by rw [k.history, h.history, List.append_assoc]⟩
  · have hrun := h.run
    clear h
    induction xs generalizing b with
    | nil =>
      obtain rfl := Option.some.inj hrun
      exact k.run
    | cons x xs ih =>
      obtain ⟨e, he, hrun⟩ := Option.bind_eq_some_iff.1 hrun
      rw [List.cons_append, Bench.run, he]
      exact ih hrun
  · have hrun := h.run
    have hstreams := h.streams
    clear h
    induction xs generalizing b with
    | nil =>
      obtain rfl := Option.some.inj hrun
      exact k.streams
    | cons x xs ih =>
      obtain ⟨e, he, hrun⟩ := Option.bind_eq_some_iff.1 hrun
      rw [Bench.streams, he, Option.elim_some, Bool.and_eq_true] at hstreams
      rw [List.cons_append, Bench.streams, he, Option.elim_some, Bool.and_eq_true]
      exact ⟨hstreams.1, ih hrun hstreams.2⟩

end Conducts

namespace Serves

variable {c : Bench} {xs : List Stimulus} {as : List (Option Batch)} {ds : List Deed}

/-- All that is seen of a run is what the passages of its deliveries say. -/
theorem run (h : Serves o partition r p b) (ht : p.Told o partition as ds) (hrun : b.run xs = some c)
    (hx : b.streams r xs = true) :
    ∃ q ms, Serves o partition r q c ∧ c.session.history = b.session.history ++ ms
      ∧ q.Told o partition (as ++ arrivals xs) (ds ++ deeds ms) := by
  induction xs generalizing b p as ds with
  | nil =>
    obtain rfl := Option.some.inj hrun
    exact ⟨p, [], h, (List.append_nil _).symm, by simpa [arrivals, deeds] using ht⟩
  | cons x xs ih =>
    obtain ⟨d, hd, hrun⟩ := Option.bind_eq_some_iff.1 hrun
    rw [streams, hd, Option.elim_some, Bool.and_eq_true, Bool.and_eq_true] at hx
    have hrunning : d.session.pump.status = .running := by
      have hs := hx.2
      cases xs with
      | nil => exact eq_of_beq hs
      | cons y ys =>
        rw [streams, Bool.and_eq_true, Bool.and_eq_true] at hs
        exact eq_of_beq hs.1.1
    obtain ⟨q, ms, hq, hms, hmove⟩ := h.step (step_of_step? hd) hx.1.2 hrunning
    obtain ⟨q', ns, hq', hns, ht'⟩ := ih hq (hmove.told h.sound ht) hrun hx.2
    refine ⟨q', ms ++ ns, hq', by rw [hns, hms, List.append_assoc], ?_⟩
    rw [show arrivals (x :: xs) = arrivals [x] ++ arrivals xs from arrivals_append [x] xs, deeds_append,
      ← List.append_assoc, ← List.append_assoc]
    exact ht'

/-- A step that is no call for shutdown leaves the pump running. -/
theorem one (h : Serves o partition r p b) (hx : b.step? x = some b') (ho : b.inSingleFile r x = true)
    (hn : ∀ reason, x ≠ .own (.shutdown reason)) {ms : List Mark}
    (hh : b'.session.history = b.session.history ++ ms) : b.Conducts r [x] b' ms :=
  .one hx h.running ho (h.running_of_step (step_of_step? hx) hn) hh

/-- A hook can return to a delivery, whatever it returns. -/
theorem conducts_answer (h : Serves o partition r p b) {id : Nat} {w : Waiting} (hw : p.calls = [(id, w)])
    (outcome : Except ProcessorError Unit) :
    ∃ b' ms, b.Conducts r [.own (.answer id (.hook outcome))] b' ms
      ∧ Serves o partition r (p.answered outcome) b'
      ∧ Place.Moves o partition p [] (deeds ms) (p.answered outcome) := by
  have hsome : (b.step? (.own (.answer id (.hook outcome)))).isSome = true := by
    have hcall := Session.call?_of_calls (h.calls.trans hw)
    have hf : (b.follow? (.answer id (.hook outcome))).isSome = true := by
      rw [follow?_isSome]
      cases p with
      | handling | blaming =>
        obtain ⟨rfl, rfl⟩ := Prod.mk.inj (List.cons.inj hw).1
        refine Session.step?_answer hcall rfl ?_
        rcases outcome with e | ⟨⟩ <;> rfl
      | _ => cases hw
    exact hf
  obtain ⟨b', hb'⟩ := Option.isSome_iff_exists.1 hsome
  obtain ⟨hserves, ms, hms, hmove⟩ := h.answer (hw ▸ List.mem_singleton_self _) (step_of_step? hb')
  exact ⟨b', ms, h.one hb' rfl (by simp) hms, hserves, hmove⟩

/-- A delivery whose call has returned can go. -/
theorem conducts_leave {ticket id : Nat} {g : Handover} (h : Serves o partition r (.ended ticket id g) b) :
    ∃ b', b.Conducts r [.leave ticket] b' [] ∧ Serves o partition r .idle b' := by
  have hv : ⟨ticket, r, .batch g.messages, some id⟩ ∈ b.visits := by
    rw [h.visits]
    exact List.mem_singleton_self _
  have hn : b.session.call? id = none := by
    have hcalls : b.session.calls = [] := h.calls
    rw [Session.call?, hcalls]
    rfl
  obtain ⟨b', hb'⟩ := Option.isSome_iff_exists.1 (leave_ready h.guarded hv rfl hn)
  obtain ⟨hserves, hs⟩ := h.leave (step_of_step? hb')
  exact ⟨b', h.one hb' rfl (by simp) (by rw [hs, List.append_nil]), hserves⟩

/-- A delivery can arrive when none is on its way, and look for the handler at once. -/
theorem conducts_enter (h : Serves o partition r .idle b) (report : Option TailReport)
    (messages : Option Batch) :
    ∃ b' ticket id ms, b.Conducts r [.arrive r (.batch messages), .enter ticket report] b' ms
      ∧ Serves o partition r ((Place.waiting ticket messages).entered o id) b'
      ∧ Place.Moves o partition (.waiting ticket messages) [] (deeds ms)
        ((Place.waiting ticket messages).entered o id) := by
  have hsize : r < b.transport.receivers.size := by
    refine Nat.lt_of_not_le fun hn => ?_
    have hh := h.handled
    rw [Transport.handled, Array.getElem?_eq_none hn] at hh
    cases hh
  obtain ⟨a, ha⟩ : ∃ a, b.step? (.arrive r (.batch messages)) = some a := ⟨_, if_pos hsize⟩
  obtain ⟨hserves, hsession, hinside⟩ := h.arrive (step_of_step? ha)
  have hv : ⟨b.next, r, .batch messages, none⟩ ∈ a.visits := by
    rw [hserves.visits]
    exact List.mem_singleton_self _
  have hsome : (a.step? (.enter b.next report)).isSome = true := by
    have hhandler : ((a.transport.receivers[r]?).bind (·.handler)).isSome = true := hserves.handled
    obtain ⟨slot, hslot⟩ := Option.isSome_iff_exists.1 hhandler
    have hfind := visit?_of_mem hserves.guarded hv
    simp only [step?, hfind, Option.bind_some, Option.isNone_none, Bool.true_and, hinside, if_true, enter?,
      hslot, follow?_isSome]
    rfl
  obtain ⟨b', hb'⟩ := Option.isSome_iff_exists.1 hsome
  obtain ⟨hserves', ms, hms, hmove⟩ := hserves.enter (step_of_step? hb')
  have harrive : b.Conducts r [.arrive r (.batch messages)] a [] :=
    h.one ha (by simp [inSingleFile, h.visits, Place.visits]) (by simp) (by rw [hsession, List.append_nil])
  exact ⟨b', b.next, _, ms, harrive.trans (hserves.one hb' rfl (by simp) hms), hserves', hmove⟩

/-- Every delivery can be made to its end, whatever the hooks return, and leaves the pump ready for the
next. -/
theorem conducts_delivery (h : Serves o partition r .idle b) (g : Handover) :
    ∃ xs b' ms, b.Conducts r xs b' ms ∧ arrivals xs = [g.messages] ∧ Serves o partition r .idle b'
      ∧ deeds ms = g.story partition o := by
  obtain ⟨c, ticket, id, ms, hc, hserves, hmove⟩ := h.conducts_enter g.report g.messages
  -- from the end of the call on
  have finish {ticket id : Nat} {f : Handover} {d : Bench} {ys : List Stimulus} {ns : List Mark}
      (hd : c.Conducts r ys d ns) (ha : arrivals ys = []) (hf : Serves o partition r (.ended ticket id f) d)
      (hs : deeds (ms ++ ns) = g.story partition o) :
      ∃ xs b' ms, b.Conducts r xs b' ms ∧ arrivals xs = [g.messages] ∧ Serves o partition r .idle b'
        ∧ deeds ms = g.story partition o := by
    obtain ⟨e, he, hidle⟩ := hf.conducts_leave
    refine ⟨_, e, _, hc.trans (hd.trans he), ?_, hidle, ?_⟩
    · rw [arrivals_append, arrivals_append, ha]
      rfl
    · rw [List.append_nil]
      exact hs
  obtain ⟨report, messages, outcome, afterwards⟩ := g
  cases hn : o.normalised messages with
  | none =>
    have he : (Place.waiting ticket messages).entered o id = .ended ticket id { messages } := by
      rw [Place.entered, hn]
    rw [he] at hserves hmove
    refine finish (.nil hserves.running) rfl hserves ?_
    rw [List.append_nil, ← List.nil_append (deeds ms)]
    refine (hmove.seen_eq trivial rfl).trans ?_
    rw [Place.seen, Handover.story_of_none _ hn, Handover.story_of_none _ hn]
  | some batch =>
    have he : (Place.waiting ticket messages).entered o id = .handling ticket id messages batch := by
      rw [Place.entered, hn]
    rw [he] at hserves hmove
    have hseen := hmove.seen_eq trivial rfl
    obtain ⟨d, ns, hd, hserves', hmove'⟩ := hserves.conducts_answer rfl outcome
    cases outcome with
    | ok =>
      have hseen' := hmove'.seen_eq hn rfl
      refine finish hd rfl hserves' ?_
      rw [deeds_append, ← List.nil_append (deeds ms)]
      exact (congrArg (· ++ deeds ns) hseen).trans hseen'
    | error e =>
      have hseen' := hmove'.seen_eq hn rfl
      obtain ⟨d', ns', hd', hserves'', hmove''⟩ := hserves'.conducts_answer rfl afterwards
      have hseen'' := hmove''.seen_eq hn rfl
      refine finish (hd.trans hd') rfl hserves'' ?_
      rw [deeds_append, deeds_append, ← List.append_assoc, ← List.nil_append (deeds ms)]
      refine (congrArg (· ++ deeds ns ++ deeds ns') hseen).trans ?_
      exact (congrArg (· ++ deeds ns') hseen').trans hseen''

/-- Any deliveries can be made, one after the other, whatever the hooks return. -/
theorem conducts_deliveries (h : Serves o partition r .idle b) (gs : List Handover) :
    ∃ xs b' ms, b.Conducts r xs b' ms ∧ arrivals xs = gs.map (·.messages) ∧ Serves o partition r .idle b'
      ∧ deeds ms = gs.flatMap (·.story partition o) := by
  induction gs generalizing b with
  | nil => exact ⟨[], b, [], .nil h.running, rfl, h, rfl⟩
  | cons g gs ih =>
    obtain ⟨xs, c, ms, hc, ha, hserves, hd⟩ := h.conducts_delivery g
    obtain ⟨ys, d, ns, hd', ha', hserves', hds⟩ := ih hserves
    refine ⟨_, d, _, hc.trans hd', ?_, hserves', ?_⟩
    · rw [arrivals_append, ha, ha']
      rfl
    · rw [deeds_append, hd, hds, List.flatMap_cons]

end Serves
end Bench

section Main

variable {context : Context} {lease : Lease} {options : Options} {wire : String} {draw : Nat → Nat}

/-- Deliveries refine the stream of normalised batches. A pump that runs has a receiver with its handler.
While it runs and that receiver is given one delivery after the other, whatever the hooks return and whatever
else goes on, all that is seen of the pump is the stories of the deliveries, in order and one after the other.
The story of a delivery is that its normalised batch, if there is one, is handed to the batch hook; when the
hook has succeeded, a batch of that length is published as delivered, and when it has failed, the error hook is
told and its answer awaited. So the batches that are handed over are the normalised ones of the deliveries, in
order. No step but a call for shutdown takes the pump out of this state, and any deliveries can be made to
their end, whatever the hooks return. -/
theorem deliveries_refine_batches {xs : List Stimulus} {b : Bench}
    (h : (Bench.new (.new context lease options wire draw)).run xs = some b)
    (hr : b.session.pump.status = .running) (hv : b.visits = []) :
    ∃ c, b.session.pump.connection = some c
      ∧ (∀ ys d, b.run ys = some d → b.streams c.receiver ys = true →
        (∃ gs : List Handover, gs.map (·.messages) = arrivals ys
          ∧ deeds (d.session.history.drop b.session.history.length)
            <+: gs.flatMap (·.story b.session.pump.partition b.session.pump.options)
          ∧ (d.visits = [] → deeds (d.session.history.drop b.session.history.length)
              = gs.flatMap (·.story b.session.pump.partition b.session.pump.options)
            ∧ (deeds (d.session.history.drop b.session.history.length)).filterMap Deed.batch?
              = (arrivals ys).filterMap b.session.pump.options.normalised))
        ∧ ∀ x e, d.step? x = some e → (∀ reason, x ≠ .own (.shutdown reason)) →
          e.session.pump.status = .running)
      ∧ ∀ gs : List Handover, ∃ ys d, b.run ys = some d ∧ b.streams c.receiver ys = true
        ∧ arrivals ys = gs.map (·.messages) ∧ d.visits = []
        ∧ deeds (d.session.history.drop b.session.history.length)
          = gs.flatMap (·.story b.session.pump.partition b.session.pump.options) := by
  have hreg := Bench.Regular.of_run h
  obtain ⟨c, hc, hh⟩ := hreg.held hr
  have hcalls : b.session.calls = [] := by
    refine List.eq_nil_iff_forall_not_mem.2 fun y hy => ?_
    obtain ⟨stage, hs⟩ := hreg.sheltered.delivers hreg.inTurn.toLed hreg.afloat hr hy
    obtain ⟨v, hm, -⟩ := hreg.guarded.inside y.1 ⟨y.2, stage, hy, hs⟩
    rw [hv] at hm
    cases hm
  have hserves : b.Serves b.session.pump.options b.session.pump.partition c.receiver .idle :=
    ⟨hreg, hr, hh, rfl, rfl, hv, hcalls, trivial⟩
  refine ⟨c, hc, fun ys d hd hs => ?_, fun gs => ?_⟩
  · obtain ⟨q, ms, hq, hms, ht⟩ := hserves.run Place.told_idle hd hs
    obtain ⟨gs, hgs, hpre, hidle⟩ := ht.stories hq.sound
    rw [hms, List.drop_left]
    refine ⟨⟨gs, hgs, hpre, fun hdv => ?_⟩, fun x e he hn => ?_⟩
    · have heq := hidle (hq.visits_eq_nil hdv)
      refine ⟨heq, ?_⟩
      rw [List.nil_append] at heq hgs
      rw [heq, Handover.batches_stories, hgs]
    · exact hq.running_of_step (Bench.step_of_step? he) hn
  · obtain ⟨ys, d, ms, hrun, ha, hidle, hd⟩ := hserves.conducts_deliveries gs
    refine ⟨ys, d, hrun.run, hrun.streams, ha, hidle.visits, ?_⟩
    rw [hrun.history, List.drop_left, hd]

/-- A window without messages is handed over as an empty batch, on which the batch hook fails; then a batch
is handed over, and the pump is started once more in the meantime. -/
theorem deliveries_refine_batches_past_failed_one :
    ∃ b d, (Bench.new (.new ⟨"h", "g", "0", some (.timestamp ⟨0⟩), none⟩ ⟨"0", "h", 1⟩
        { invokeOnEmpty := true } "mock" fun _ => 0)).run Bench.opening = some b
      ∧ b.run [.arrive 0 (.batch none), .enter 0 none, .own (.answer 1 (.hook (.error ⟨"bad"⟩))), .own (.pass 5),
        .own (.answer 1 (.hook (.ok ()))), .leave 0, .arrive 0 (.batch (some [⟨[1], 7, "7", ⟨0⟩, []⟩])),
        .enter 1 none, .own .start, .own (.answer 2 (.hook (.ok ()))), .leave 1] = some d
      ∧ d.session.pump.status = .running
      ∧ (∃ gs : List Handover, gs.map (·.messages) = [none, some [⟨[1], 7, "7", ⟨0⟩, []⟩]]
        ∧ deeds (d.session.history.drop b.session.history.length)
          = gs.flatMap (·.story "0" { invokeOnEmpty := true }))
      ∧ (deeds (d.session.history.drop b.session.history.length)).filterMap Deed.batch?
        = [[], [⟨[1], 7, "7", ⟨0⟩, []⟩]]
      ∧ ∀ gs : List Handover, ∃ ys e, b.run ys = some e ∧ arrivals ys = gs.map (·.messages) ∧ e.visits = []
        ∧ deeds (e.session.history.drop b.session.history.length)
          = gs.flatMap (·.story "0" { invokeOnEmpty := true }) := by
  generalize hp : Pump.new _ _ _ _ _ = p
  generalize hys : [Stimulus.arrive _ _, _, _, _, _, _, _, _, _, _, _] = ys
  have hrun : ((Bench.new p).run Bench.opening).bind (fun b => (b.run ys).map fun d =>
      (b.session.pump.status, b.visits, b.session.pump.connection, b.streams 0 ys, d.visits,
        d.session.pump.status, b.session.pump.partition, b.session.pump.options))
      = some (.running, [], some ⟨0, 0⟩, true, [], .running, "0", { invokeOnEmpty := true }) := by
    subst hp hys
    rfl
  obtain ⟨b, hb, hrun⟩ := Option.bind_eq_some_iff.1 hrun
  obtain ⟨d, hd, he⟩ := Option.map_eq_some_iff.1 hrun
  simp only [Prod.mk.injEq] at he
  obtain ⟨hr, hv, hk, hs, hdv, hdr, hpart, hopts⟩ := he
  subst hp
  obtain ⟨c, hc, hall, hany⟩ := deliveries_refine_batches hb hr hv
  obtain rfl : c = ⟨0, 0⟩ := Option.some.inj (hc.symm.trans hk)
  obtain ⟨⟨gs, hgs, -, hidle⟩, -⟩ := hall ys d hd hs
  obtain ⟨hdeeds, hbatches⟩ := hidle hdv
  rw [hpart, hopts] at hdeeds
  rw [hopts] at hbatches
  refine ⟨b, d, hb, hd, hdr, ⟨gs, ?_, hdeeds⟩, ?_, fun gs => ?_⟩
  · rw [hgs, ← hys]
    rfl
  · rw [hbatches, ← hys]
    rfl
  · obtain ⟨zs, e, hz, -, ha, hev, hds⟩ := hany gs
    rw [hpart, hopts] at hds
    exact ⟨zs, e, hz, ha, hev, hds⟩

end Main
end PartitionConsumer
