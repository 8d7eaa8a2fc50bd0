import PartitionConsumer.Proofs.Bench.Basic
/-!
# Steps of a bench

The outcomes of one step of a bench. Its session takes a step of its own or none, and never one that
drops a call; so what holds of the runs of sessions holds of the sessions of benches.
-/
namespace PartitionConsumer

namespace Session

variable {s t : Session} {c : Cause}

/-- A step only adds to the history. -/
theorem Step.grows (h : s.Step c t) : s.history <+: t.history := by
  have hc (ms : List Mark) (es : List Effect) (id : Nat) (nx : Next) (errand : Errand) :
      s.history <+: s.history ++ ms ++ es.map (.did id) ++ nx.marks id errand :=
    (List.prefix_append _ _).trans ((List.prefix_append _ _).trans (List.prefix_append _ _))
  cases h with
  | discard n hn => exact List.prefix_rfl
  | drop id w hw => exact List.prefix_append _ _
  | bump => exact List.prefix_rfl
  | pass ticks => exact List.prefix_append _ _
  | _ => exact hc ..

end Session

def Stimulus.hook? : Stimulus → Option Nat
  | .own (.answer id (.hook _)) => some id
  | _ => none

namespace Bench

structure Follows (b : Bench) (c : Cause) (b' : Bench) : Prop where
  session : b.session.step? c = some b'.session
  transport : b'.transport = (effects (b'.session.history.drop b.session.history.length)).foldl
    (Transport.perform b'.session.pump.options) b.transport
  visits : b'.visits = b.visits
  drains : b'.drains = b.drains
  next : b'.next = b.next

theorem follows_of_follow? {b b' : Bench} {c : Cause} (h : b.follow? c = some b') : b.Follows c b' := by
  obtain ⟨t, ht, rfl⟩ := Option.map_eq_some_iff.1 h
  exact ⟨ht, rfl, rfl, rfl, rfl⟩

inductive Step (b : Bench) : Stimulus → Bench → Prop where
  | own {b'} (c : Cause) (hc : c.isOwn = true) (h : b.Follows c b') : Step b (.own c) b'
  | noClient {b'} (id : Nat) (e : TransportError) (hr : b.request? id = some .createClient)
    (h : b.Follows (.answer id (.client (.error e))) b') : Step b (.create id (some e)) b'
  | client {b'} (id : Nat) (hr : b.request? id = some .createClient)
    (h : Follows { b with transport := b.transport.addClient.2 }
      (.answer id (.client (.ok b.transport.clients.size))) b') : Step b (.create id none) b'
  | noReceiver {b'} (id client : Nat) (request : ReceiverRequest) (e : TransportError)
    (hr : b.request? id = some (.createReceiver client request))
    (h : b.Follows (.answer id (.receiver (.error e))) b') : Step b (.create id (some e)) b'
  | receiver {b'} (id client : Nat) (request : ReceiverRequest)
    (hr : b.request? id = some (.createReceiver client request))
    (h : Follows { b with transport := (b.transport.addReceiver request.epoch).2 }
      (.answer id (.receiver (.ok b.transport.receivers.size))) b') : Step b (.create id none) b'
  | close {b'} (id : Nat) (error : Option TransportError)
    (hr : (∃ r, b.request? id = some (.closeReceiver r)) ∨ ∃ c, b.request? id = some (.closeClient c))
    (h : b.Follows (.answer id (.released (outcome error))) b') : Step b (.close id error) b'
  | pass (id r : Nat) (hr : b.request? id = some (.clearHandler r))
    (hd : ∀ d ∈ b.drains, d.call ≠ id) :
    Step b (.pass id)
      { b.modify r (·.enterClear b.next) with
        drains := ⟨id, r, b.next⟩ :: b.drains, next := b.next + 1 }
  | drain {b'} (error : Option TransportError) (d : Drain) (hd : d ∈ b.drains)
    (hl : b.isInside d.receiver d.ticket = true)
    (h : Follows { b.modify d.receiver (·.endClear d.ticket) with
        drains := b.drains.filter (·.call != d.call) } (.answer d.call (.released (outcome error))) b') :
    Step b (.drain d.call error) b'
  | arrive (r : Nat) (parcel : Parcel) (hr : r < b.transport.receivers.size) :
    Step b (.arrive r parcel)
      { b.modify r (·.enterDelivery b.next) with
        visits := ⟨b.next, r, parcel, none⟩ :: b.visits, next := b.next + 1 }
  | depart (report : Option TailReport) (v : Visit) (hv : v ∈ b.visits) (hc : v.call = none)
    (hl : b.isInside v.receiver v.ticket = true)
    (hh : (b.transport.receivers[v.receiver]?).bind (·.handler) = none) :
    Step b (.enter v.ticket report) (b.depart v)
  | deliver {b'} (report : Option TailReport) (v : Visit) (messages : Option Batch)
    (hv : v ∈ b.visits) (hc : v.call = none) (hl : b.isInside v.receiver v.ticket = true)
    (hh : ((b.transport.receivers[v.receiver]?).bind (·.handler)).isSome)
    (hp : v.parcel = .batch messages) (h : (b.handIn v).Follows (.deliver report messages) b') :
    Step b (.enter v.ticket report) b'
  | fail {b'} (report : Option TailReport) (v : Visit) (e : TransportError)
    (hv : v ∈ b.visits) (hc : v.call = none) (hl : b.isInside v.receiver v.ticket = true)
    (hh : ((b.transport.receivers[v.receiver]?).bind (·.handler)).isSome)
    (hp : v.parcel = .failure e) (h : (b.depart v).Follows (.fail e) b') :
    Step b (.enter v.ticket report) b'
  | leave (v : Visit) (id : Nat) (hv : v ∈ b.visits) (hc : v.call = some id)
    (hn : b.session.call? id = none) : Step b (.leave v.ticket) (b.depart v)
  | gate (r : Nat) (isOpen : Bool) :
    Step b (.gate r isOpen) (b.modify r fun receiver => { receiver with gateOpen := isOpen })

variable {b b' : Bench} {x : Stimulus}

theorem mem_of_visit? {ticket : Nat} {v : Visit} (h : b.visit? ticket = some v) :
    v ∈ b.visits ∧ v.ticket = ticket :=
  ⟨List.mem_of_find?_eq_some h, eq_of_beq (List.find?_some (p := fun v : Visit => v.ticket == ticket) h)⟩

theorem step_of_create? {id : Nat} {error : Option TransportError}
    (h : b.create? id error = some b') : b.Step (.create id error) b' := by
  unfold create? at h
  split at h
  · rename_i e hr
    exact .noClient id e hr (follows_of_follow? h)
  · rename_i hr
    exact .client id hr (follows_of_follow? h)
  · rename_i client request e hr
    exact .noReceiver id client request e hr (follows_of_follow? h)
  · rename_i client request hr
    exact .receiver id client request hr (follows_of_follow? h)
  · cases h

theorem step_of_enter? {v : Visit} {report : Option TailReport} (hv : v ∈ b.visits)
    (hc : v.call = none) (hl : b.isInside v.receiver v.ticket = true)
    (h : b.enter? v report = some b') : b.Step (.enter v.ticket report) b' := by
  unfold enter? at h
  split at h
  · rename_i hh
    cases h
    exact .depart report v hv hc hl hh
  · rename_i messages hh hp
    exact .deliver report v messages hv hc hl (by rw [hh]; rfl) hp (follows_of_follow? h)
  · rename_i e hh hp
    exact .fail report v e hv hc hl (by rw [hh]; rfl) hp (follows_of_follow? h)

/-- Every step of a bench is one of the outcomes. -/
theorem step_of_step? (h : b.step? x = some b') : b.Step x b' := by
  cases x with
  | own c =>
    obtain ⟨hc, h⟩ := Option.ite_none_right_eq_some.1 h
    exact .own c hc (follows_of_follow? h)
  | create id error => exact step_of_create? h
  | close id error =>
    dsimp only [step?] at h
    split at h
    · rename_i r hr
      exact .close id error (.inl ⟨r, hr⟩) (follows_of_follow? h)
    · rename_i c hr
      exact .close id error (.inr ⟨c, hr⟩) (follows_of_follow? h)
    · cases h
  | pass id =>
    dsimp only [step?] at h
    split at h
    · rename_i r hr
      obtain ⟨hg, h⟩ := Option.ite_none_right_eq_some.1 h
      rw [Bool.and_eq_true, List.all_eq_true] at hg
      exact Option.some.inj h ▸ .pass id r hr fun d hd => by simpa using hg.2 d hd
    · cases h
  | drain id error =>
    obtain ⟨d, hd, h⟩ := Option.bind_eq_some_iff.1 h
    obtain ⟨hl, h⟩ := Option.ite_none_right_eq_some.1 h
    obtain rfl : d.call = id := eq_of_beq (List.find?_some (p := fun d : Drain => d.call == id) hd)
    exact .drain error d (List.mem_of_find?_eq_some hd) hl (follows_of_follow? h)
  | arrive r parcel =>
    obtain ⟨hr, h⟩ := Option.ite_none_right_eq_some.1 h
    exact Option.some.inj h ▸ .arrive r parcel hr
  | enter ticket report =>
    obtain ⟨v, hv, hs⟩ := Option.bind_eq_some_iff.1 h
    obtain ⟨hm, rfl⟩ := mem_of_visit? hv
    obtain ⟨hg, hs⟩ := Option.ite_none_right_eq_some.1 hs
    rw [Bool.and_eq_true] at hg
    exact step_of_enter? hm (Option.isNone_iff_eq_none.1 hg.1) hg.2 hs
  | leave ticket =>
    obtain ⟨v, hv, hs⟩ := Option.bind_eq_some_iff.1 h
    obtain ⟨hm, rfl⟩ := mem_of_visit? hv
    split at hs
    · rename_i id hc
      obtain ⟨hn, hs⟩ := Option.ite_none_right_eq_some.1 hs
      exact Option.some.inj hs ▸ .leave v id hm hc (Option.isNone_iff_eq_none.1 hn)
    · cases hs
  | gate r isOpen => exact Option.some.inj h ▸ .gate r isOpen

/-! ## The session -/

/-- The session takes a step or none, and a hook is told to return only by the stimulus that says so. -/
theorem Step.cause (h : b.Step x b') :
    b'.session = b.session ∨ ∃ c, c.isDrop = false ∧ b.session.step? c = some b'.session
      ∧ ∀ id outcome, c = .answer id (.hook outcome) → x.hook? = some id := by
  cases h with
  | own c hc h => exact .inr ⟨c, c.isDrop_of_isOwn hc, h.session, fun id outcome he => he ▸ rfl⟩
  | noClient _ _ _ h => exact .inr ⟨_, rfl, h.session, nofun⟩
  | client _ _ h => exact .inr ⟨_, rfl, h.session, nofun⟩
  | noReceiver _ _ _ _ _ h => exact .inr ⟨_, rfl, h.session, nofun⟩
  | receiver _ _ _ _ h => exact .inr ⟨_, rfl, h.session, nofun⟩
  | close _ _ _ h => exact .inr ⟨_, rfl, h.session, nofun⟩
  | drain _ _ _ _ h => exact .inr ⟨_, rfl, h.session, nofun⟩
  | deliver _ _ _ _ _ _ _ _ h => exact .inr ⟨_, rfl, h.session, nofun⟩
  | fail _ _ _ _ _ _ _ _ h => exact .inr ⟨_, rfl, h.session, nofun⟩
  | _ => exact .inl rfl

/-- The session takes a step that drops no call, or none. -/
theorem Step.session (h : b.Step x b') :
    b'.session = b.session
      ∨ ∃ c, c.isDrop = false ∧ b.session.step? c = some b'.session :=
  h.cause.imp_right fun ⟨c, hd, hs, _⟩ => ⟨c, hd, hs⟩

/-- What every step keeps holds at the end of every run. -/
theorem run_induction {P : Bench → Prop} {xs : List Stimulus} (h0 : P b)
    (hs : ∀ b x b', P b → b.Step x b' → P b') (h : b.run xs = some b') : P b' := by
  induction xs generalizing b with
  | nil => exact Option.some.inj h ▸ h0
  | cons x xs ih =>
    obtain ⟨u, hu, h⟩ := Option.bind_eq_some_iff.1 h
    exact ih (hs b x u h0 (step_of_step? hu)) h

/-- What holds of the session as long as no call is dropped holds after every step of the bench. -/
theorem Step.keeps {P : Session → Prop}
    (hk : ∀ s c t, c.isDrop = false → s.InTurn → P s → s.Step c t → P t) (h : b.Step x b')
    (hi : b.session.InTurn) (hp : P b.session) : b'.session.InTurn ∧ P b'.session := by
  obtain he | ⟨c, hc, hs⟩ := h.session
  · rw [he]
    exact ⟨hi, hp⟩
  · exact ⟨hi.step? hc hs, hk _ _ _ hc hi hp (Session.step_of_step? hi.tidy.trace hs)⟩

end Bench
end PartitionConsumer
