import PartitionConsumer.Proofs.Ownership
import PartitionConsumer.Proofs.Bench.Steps
/-!
# Released once

On the in-memory transport every client and every receiver counts its own calls. What the transport has
made is what the history has told the pump of, and what it has counted is what the history has asked, so
the account of the session is the account of the transport.
-/
namespace PartitionConsumer

namespace Transport

def has (t : Transport) : Request → Bool
  | .clearHandler r | .closeReceiver r => r < t.receivers.size
  | .closeClient c => c < t.clients.size
  | _ => false

/-- How often the transport has counted the request. -/
def counted (t : Transport) : Request → Nat
  | .clearHandler r => t.receivers[r]?.elim 0 (·.clearCalls)
  | .closeReceiver r => t.receivers[r]?.elim 0 (·.closeCalls)
  | .closeClient c => t.clients[c]?.elim 0 (·.closeCalls)
  | _ => 0

section Perform

variable (o : Options) (t : Transport)

theorem has_congr {t u : Transport} (hr : u.receivers.size = t.receivers.size)
    (hc : u.clients.size = t.clients.size) (x : Request) : u.has x = t.has x := by
  cases x <;> simp [has, hr, hc]

theorem has_modifyReceiver (r : Nat) (f : Receiver → Receiver) (x : Request) :
    (t.modifyReceiver r f).has x = t.has x :=
  has_congr (u := t.modifyReceiver r f) Array.size_modify rfl x

theorem modify_of_none {α : Type} {xs : Array α} {i : Nat} (h : xs[i]? = none) (f : α → α) :
    xs.modify i f = xs := by
  apply Array.ext_getElem?
  intro j
  rw [Array.getElem?_modify]
  by_cases hi : i = j
  · subst hi
    simp [h]
  · simp [hi]

theorem modify_of_some {α : Type} {xs : Array α} {i : Nat} {y : α} (h : xs[i]? = some y) (f : α → α) :
    xs.modify i f = xs.modify i fun _ => f y := by
  apply Array.ext_getElem?
  intro j
  rw [Array.getElem?_modify, Array.getElem?_modify]
  by_cases hi : i = j
  · subst hi
    simp [h]
  · simp [hi]

/-- Closing is counted by the receiver, if there is one. -/
theorem closeReceiver_fst (r : Nat) : (t.closeReceiver r).1 = t.modifyReceiver r (·.close.1) := by
  unfold closeReceiver modifyReceiver
  cases hr : t.receivers[r]? with
  | none => rw [modify_of_none hr]
  | some y => rw [modify_of_some hr]

theorem closeClient_fst (c : Nat) : (t.closeClient c).1 = t.modifyClient c (·.close.1) := by
  unfold closeClient modifyClient
  cases hc : t.clients[c]? with
  | none => rw [modify_of_none hc]
  | some y => rw [modify_of_some hc]

theorem has_perform (e : Effect) (x : Request) : (perform o t e).has x = t.has x := by
  cases e with
  | ask q =>
    cases q with
    | closeReceiver r =>
      rw [perform, closeReceiver_fst]
      exact t.has_modifyReceiver r _ x
    | closeClient c =>
      rw [perform, closeClient_fst]
      exact has_congr (t := t) (u := t.modifyClient c _) rfl Array.size_modify x
    | createClient => exact has_congr rfl rfl x
    | createReceiver => exact has_congr rfl rfl x
    | clearHandler r => exact t.has_modifyReceiver r _ x
    | hook => rfl
  | tune r => exact t.has_modifyReceiver r _ x
  | install r => exact t.has_modifyReceiver r _ x
  | _ => rfl

theorem counted_modifyReceiver (r : Nat) (f : Receiver → Receiver) (x : Request) :
    (t.modifyReceiver r f).counted x
      = match x with
        | .clearHandler s =>
          if r = s then t.receivers[s]?.elim 0 fun y => (f y).clearCalls else t.counted x
        | .closeReceiver s =>
          if r = s then t.receivers[s]?.elim 0 fun y => (f y).closeCalls else t.counted x
        | _ => t.counted x := by
  cases x with
  | clearHandler s =>
    dsimp only [counted, modifyReceiver]
    rw [Array.getElem?_modify]
    split
    · cases t.receivers[s]? <;> rfl
    · rfl
  | closeReceiver s =>
    dsimp only [counted, modifyReceiver]
    rw [Array.getElem?_modify]
    split
    · cases t.receivers[s]? <;> rfl
    · rfl
  | _ => rfl

/-- A change of a receiver's lock, gate or handler is not counted. -/
theorem counted_modifyReceiver_of_eq {f : Receiver → Receiver} (r : Nat) (x : Request)
    (hf : ∀ y, (f y).clearCalls = y.clearCalls ∧ (f y).closeCalls = y.closeCalls) :
    (t.modifyReceiver r f).counted x = t.counted x := by
  rw [counted_modifyReceiver]
  cases x with
  | clearHandler s => simp [hf, counted]
  | closeReceiver s => simp [hf, counted]
  | _ => rfl

/-- The transport counts what it is asked. -/
theorem counted_perform (e : Effect) {x : Request} (hx : t.has x = true) :
    (perform o t e).counted x = t.counted x + [e.release?].count (some x) := by
  cases e with
  | ask q =>
    cases q with
    | clearHandler r =>
      refine (t.counted_modifyReceiver r _ x).trans ?_
      cases x with
      | clearHandler s =>
        have hs : s < t.receivers.size := by simpa [has] using hx
        by_cases hr : r = s
        · simp [hr, counted, hs, Receiver.beginClear, Effect.release?, Request.isRelease]
        · simp [hr, Effect.release?, Request.isRelease]
      | closeReceiver s => simp [counted, Receiver.beginClear, Effect.release?, Request.isRelease]
      | _ => simp [Effect.release?, Request.isRelease]
    | closeReceiver r =>
      rw [perform, closeReceiver_fst, counted_modifyReceiver]
      cases x with
      | clearHandler s => simp [counted, Receiver.close, Effect.release?, Request.isRelease]
      | closeReceiver s =>
        have hs : s < t.receivers.size := by simpa [has] using hx
        by_cases hr : r = s
        · simp [hr, counted, hs, Receiver.close, Effect.release?, Request.isRelease]
        · simp [hr, Effect.release?, Request.isRelease]
      | _ => simp [Effect.release?, Request.isRelease]
    | closeClient c =>
      rw [perform, closeClient_fst]
      cases x with
      | closeClient d =>
        have hd : d < t.clients.size := by simpa [has] using hx
        by_cases hc : c = d
        · simp [hc, counted, modifyClient, Array.getElem_modify, hd, Client.close, Effect.release?,
            Request.isRelease]
        · simp [hc, counted, modifyClient, Array.getElem?_modify, Effect.release?, Request.isRelease]
      | _ => simp [counted, modifyClient, Effect.release?, Request.isRelease]
    | _ => cases x <;> simp [perform, counted, callClient, callReceiver, Effect.release?, Request.isRelease]
  | tune r prefetch timeout => exact t.counted_modifyReceiver_of_eq r x fun _ => ⟨rfl, rfl⟩
  | install r => exact t.counted_modifyReceiver_of_eq r x fun _ => ⟨rfl, rfl⟩
  | _ => rfl

end Perform

theorem has_foldl (o : Options) (t : Transport) (es : List Effect) (x : Request) :
    (es.foldl (perform o) t).has x = t.has x := by
  induction es generalizing t with
  | nil => rfl
  | cons e es ih => exact (ih _).trans (has_perform o t e x)

/-- Of a list of effects the transport counts every release. -/
theorem counted_foldl (o : Options) (t : Transport) (es : List Effect) {x : Request}
    (hx : t.has x = true) :
    (es.foldl (perform o) t).counted x = t.counted x + (releases es).count x := by
  induction es generalizing t with
  | nil => rfl
  | cons e es ih =>
    have hn : (perform o t e).has x = true := by rw [has_perform, hx]
    rw [List.foldl_cons, ih _ hn, counted_perform o t e hx, Nat.add_assoc]
    congr 1
    unfold releases
    cases he : e.release? with
    | none => simp [he]
    | some y => by_cases hy : y = x <;> simp [he, hy, Nat.add_comm]

theorem counted_of_not_has {t : Transport} {x : Request} (h : t.has x = false) : t.counted x = 0 := by
  cases x with
  | clearHandler r =>
    have hr : t.receivers[r]? = none := by simpa [has] using h
    rw [counted, hr]
    rfl
  | closeReceiver r =>
    have hr : t.receivers[r]? = none := by simpa [has] using h
    rw [counted, hr]
    rfl
  | closeClient c =>
    have hc : t.clients[c]? = none := by simpa [has] using h
    rw [counted, hc]
    rfl
  | _ => rfl

/-! What is made is new, and nothing has been asked of it. -/

theorem has_addClient (t : Transport) (x : Request) :
    t.addClient.2.has x = (t.has x || [Request.closeClient t.clients.size].contains x) := by
  rw [Bool.eq_iff_iff]
  cases x with
  | closeClient c =>
    dsimp only [has, addClient]
    simp only [Array.size_push, decide_eq_true_eq, Bool.or_eq_true, List.contains_iff_mem,
      List.mem_singleton, Request.closeClient.injEq]
    omega
  | _ =>
    dsimp only [has, addClient]
    simp

theorem has_addReceiver (t : Transport) (epoch : Nat) (x : Request) :
    (t.addReceiver epoch).2.has x = (t.has x
      || [Request.clearHandler t.receivers.size, .closeReceiver t.receivers.size].contains x) := by
  rw [Bool.eq_iff_iff]
  cases x with
  | clearHandler r =>
    dsimp only [has, addReceiver]
    simp only [Array.size_push, decide_eq_true_eq, Bool.or_eq_true, List.contains_iff_mem,
      List.mem_cons, Request.clearHandler.injEq, reduceCtorEq, List.not_mem_nil,
      or_false]
    omega
  | closeReceiver r =>
    dsimp only [has, addReceiver]
    simp only [Array.size_push, decide_eq_true_eq, Bool.or_eq_true, List.contains_iff_mem,
      List.mem_cons, Request.closeReceiver.injEq, reduceCtorEq, List.not_mem_nil,
      or_false, false_or]
    omega
  | _ =>
    dsimp only [has, addReceiver]
    simp

theorem counted_addClient (t : Transport) (x : Request) : t.addClient.2.counted x = t.counted x := by
  cases x with
  | closeClient c =>
    dsimp only [counted, addClient]
    rw [Array.getElem?_push]
    split
    · rename_i hc
      simp [hc]
    · rfl
  | _ => rfl

theorem counted_addReceiver (t : Transport) (epoch : Nat) (x : Request) :
    (t.addReceiver epoch).2.counted x = t.counted x := by
  cases x with
  | clearHandler r =>
    dsimp only [counted, addReceiver]
    rw [Array.getElem?_push]
    split
    · rename_i hr
      simp [hr]
    · rfl
  | closeReceiver r =>
    dsimp only [counted, addReceiver]
    rw [Array.getElem?_push]
    split
    · rename_i hr
      simp [hr]
    · rfl
  | _ => rfl

end Transport

/-! ## The account of a transport -/

namespace Waiting

/-- The request of a release is none of the others. -/
theorem request_ne_of_release {r : Release} {q : Request} (hq : q.isRelease = false) :
    some r.request ≠ some q := by
  intro h
  have hr := r.isRelease_request
  rw [Option.some.inj h, hq] at hr
  cases hr

/-- Creation calls are made in two stages only. -/
theorem Fits.creates {id : Nat} {w : Waiting} (h : w.Fits id) :
    (w.request = some .createClient → ∃ a, w.call = .start (.client a))
      ∧ ∀ c q, w.request = some (.createReceiver c q) → ∃ a, w.call = .start (.receiver a c) := by
  cases h with
  | start ha =>
    cases ha with
    | client a => exact ⟨fun _ => ⟨a, rfl⟩, nofun⟩
    | receiver a c q =>
      refine ⟨nofun, fun c' q' he => ?_⟩
      cases he
      exact ⟨a, rfl⟩
    | release r closing =>
      exact ⟨fun he => absurd he (request_ne_of_release rfl),
        fun c q he => absurd he (request_ne_of_release rfl)⟩
    | _ => exact ⟨nofun, nofun⟩
  | shutdown ha =>
    cases ha with
    | release r =>
      exact ⟨fun he => absurd he (request_ne_of_release rfl),
        fun c q he => absurd he (request_ne_of_release rfl)⟩
    | _ => exact ⟨nofun, nofun⟩
  | deliver ha => cases ha <;> exact ⟨nofun, nofun⟩
  | report e => exact ⟨nofun, nofun⟩

end Waiting

/-- The transport has made what the history has told, and has counted what the history has asked. -/
structure Transport.Agrees (t : Transport) (h : List Mark) : Prop where
  made : ∀ x, (made h).count x = if t.has x then 1 else 0
  counted : ∀ x, t.has x = true → t.counted x = (released h).count x
  connected : ∀ r, t.has (.clearHandler r) = true → ∃ c ∈ connections h, c.receiver = r

/-- A change of a receiver's lock, gate or handler does not matter. -/
theorem Transport.Agrees.modifyReceiver {t : Transport} {h : List Mark} (ht : t.Agrees h) (r : Nat)
    {f : Receiver → Receiver}
    (hf : ∀ y, (f y).clearCalls = y.clearCalls ∧ (f y).closeCalls = y.closeCalls) :
    (t.modifyReceiver r f).Agrees h where
  made x := by
    rw [has_modifyReceiver]
    exact ht.made x
  counted x hx := by
    rw [has_modifyReceiver] at hx
    rw [counted_modifyReceiver_of_eq _ _ _ hf]
    exact ht.counted x hx
  connected s hs := by
    rw [has_modifyReceiver] at hs
    exact ht.connected s hs

namespace Bench

variable {b b' : Bench} {c : Cause} {x : Stimulus}

/-- The transport counts what the session asks. -/
theorem Follows.counted (hf : b.Follows c b') (hp : b.session.pump.trace = []) {x : Request}
    (hx : b.transport.has x = true) : b'.transport.counted x + (released b.session.history).count x
      = b.transport.counted x + (released b'.session.history).count x := by
  have hg := (Session.step_of_step? hp hf.session).grows
  rw [List.prefix_iff_eq_append] at hg
  rw [hf.transport, Transport.counted_foldl _ _ _ hx, ← hg, released_append, List.count_append,
    hg, Nat.add_assoc, Nat.add_comm ((releases _).count x)]
  rfl

/-- The transport, which has just made `new`, follows the session, which is told so. -/
theorem Follows.agrees {t : Transport} {new : List Request}
    (hf : Follows { b with transport := t } c b') (hp : b.session.pump.trace = [])
    (ha : b.session.Accounted {}) (h : b.transport.Agrees b.session.history)
    (hm : made b'.session.history = made b.session.history ++ new)
    (hh : ∀ x, t.has x = (b.transport.has x || new.contains x)) (hd : new.Nodup)
    (hn : ∀ x ∈ new, b.transport.has x = false)
    (hc : ∀ x, t.counted x = b.transport.counted x)
    (hk : ∀ r, t.has (.clearHandler r) = true →
      ∃ c ∈ connections b'.session.history, c.receiver = r) :
    b'.transport.Agrees b'.session.history := by
  have hb (x : Request) : b'.transport.has x = t.has x := by
    rw [hf.transport]
    exact Transport.has_foldl ..
  refine ⟨fun x => ?_, fun x hx => ?_, fun r hr => hk r (hb _ ▸ hr)⟩
  · rw [hm, List.count_append, h.made, hb, hh]
    by_cases hx : x ∈ new
    · simp [hn x hx, hx, hd.count]
    · rw [List.count_eq_zero_of_not_mem hx]
      simp [hx]
  · rw [hb] at hx
    have he := hf.counted hp hx
    have ho := ha.all x
    rw [h.made] at ho
    have hcx := hc x
    dsimp only at he
    cases hb : b.transport.has x with
    | true =>
      have := h.counted x hb
      omega
    | false =>
      have := Transport.counted_of_not_has hb
      rw [hb] at ho
      simp at ho
      omega

theorem Follows.agrees_quiet (hf : b.Follows c b') (hi : b.session.InTurn)
    (ha : b.session.Accounted {}) (hc : c.makes = false) (h : b.transport.Agrees b.session.history) :
    b'.transport.Agrees b'.session.history := by
  have hs := Session.step_of_step? hi.tidy.trace hf.session
  obtain ⟨hm, hk⟩ := hs.makes_nothing hc
  have hf' : Follows { b with transport := b.transport } c b' := hf
  refine hf'.agrees hi.tidy.trace ha h ?_ (fun x => (Bool.or_false _).symm) List.nodup_nil
    (by simp) (fun x => rfl) ?_
  · rw [hm, List.append_nil]
  · rw [hk]
    exact h.connected

/-- The pump is told of a client that is new. -/
theorem Step.agrees_client {id : Nat} (hr : b.request? id = some .createClient)
    (hf : Follows { b with transport := b.transport.addClient.2 }
      (.answer id (.client (.ok b.transport.clients.size))) b')
    (hi : b.session.InTurn) (ha : b.session.Accounted {})
    (h : b.transport.Agrees b.session.history) : b'.transport.Agrees b'.session.history := by
  obtain ⟨w, hw, hm, hk⟩ := (Session.step_of_step? hi.tidy.trace hf.session).makes_answer
  have hw' : b.session.call? id = some w := hw
  have hq : w.request = some .createClient := by
    unfold request? at hr
    rw [hw'] at hr
    exact hr
  obtain ⟨a, hc⟩ := (hi.tidy.fits_call hw').creates.1 hq
  rw [hc] at hm hk
  refine hf.agrees hi.tidy.trace ha h hm b.transport.has_addClient (by simp [Call.made]) ?_
    b.transport.counted_addClient fun r hr => ?_
  · simp [Transport.has, Call.made]
  · rw [hk]
    have hr' : b.transport.has (.clearHandler r) = true := hr
    obtain ⟨c, hm, he⟩ := h.connected r hr'
    exact ⟨c, List.mem_append_left _ hm, he⟩

/-- The pump is told of a receiver that is new. -/
theorem Step.agrees_receiver {id client : Nat} {request : ReceiverRequest}
    (hr : b.request? id = some (.createReceiver client request))
    (hf : Follows { b with transport := (b.transport.addReceiver request.epoch).2 }
      (.answer id (.receiver (.ok b.transport.receivers.size))) b')
    (hi : b.session.InTurn) (ha : b.session.Accounted {})
    (h : b.transport.Agrees b.session.history) : b'.transport.Agrees b'.session.history := by
  obtain ⟨w, hw, hm, hk⟩ := (Session.step_of_step? hi.tidy.trace hf.session).makes_answer
  have hw' : b.session.call? id = some w := hw
  have hq : w.request = some (.createReceiver client request) := by
    unfold request? at hr
    rw [hw'] at hr
    exact hr
  obtain ⟨a, hc⟩ := (hi.tidy.fits_call hw').creates.2 client request hq
  rw [hc] at hm hk
  refine hf.agrees hi.tidy.trace ha h hm (b.transport.has_addReceiver _) (by simp [Call.made]) ?_
    (b.transport.counted_addReceiver _) fun r hr => ?_
  · simp [Transport.has, Call.made]
  · rw [hk]
    rw [Transport.has_addReceiver, Bool.or_eq_true] at hr
    obtain hr | hr := hr
    · obtain ⟨c, hm, he⟩ := h.connected r hr
      exact ⟨c, List.mem_append_left _ hm, he⟩
    · obtain rfl : r = b.transport.receivers.size := by simpa using hr
      exact ⟨_, List.mem_append_right _ (List.mem_singleton_self _), rfl⟩

theorem Step.agrees (hs : b.Step x b') (hi : b.session.InTurn) (ha : b.session.Accounted {})
    (h : b.transport.Agrees b.session.history) : b'.transport.Agrees b'.session.history := by
  cases hs with
  | own c hc hf =>
    refine hf.agrees_quiet hi ha ?_ h
    cases c with
    | answer id a => cases a <;> first | rfl | cases hc
    | _ => rfl
  | noClient id e hr hf => exact hf.agrees_quiet hi ha rfl h
  | client id hr hf => exact agrees_client hr hf hi ha h
  | noReceiver id client request e hr hf => exact hf.agrees_quiet hi ha rfl h
  | receiver id client request hr hf => exact agrees_receiver hr hf hi ha h
  | close id error hr hf => exact hf.agrees_quiet hi ha rfl h
  | pass id r hr hd => exact h.modifyReceiver r fun _ => ⟨rfl, rfl⟩
  | drain error d hd hl hf => 
    exact hf.agrees_quiet hi ha rfl (h.modifyReceiver d.receiver fun _ => ⟨rfl, rfl⟩)
  | arrive r parcel hr => exact h.modifyReceiver r fun _ => ⟨rfl, rfl⟩
  | depart report v => exact h.modifyReceiver v.receiver fun _ => ⟨rfl, rfl⟩
  | deliver report v messages hv hc hl hh hp hf => exact hf.agrees_quiet hi ha rfl h
  | fail report v e hv hc hl hh hp hf =>
    exact hf.agrees_quiet hi ha rfl (h.modifyReceiver v.receiver fun _ => ⟨rfl, rfl⟩)
  | leave v id hv hc hn => exact h.modifyReceiver v.receiver fun _ => ⟨rfl, rfl⟩
  | gate r isOpen => exact h.modifyReceiver r fun _ => ⟨rfl, rfl⟩

structure Balanced (b : Bench) : Prop where
  inTurn : b.session.InTurn
  settled : b.session.Settled
  accounted : b.session.Accounted {}
  faulted : b.session.Faulted
  agrees : b.transport.Agrees b.session.history

namespace Balanced

theorem new {context : Context} {lease : Lease} {options : Options} {wire : String}
    {draw : Nat → Nat} : (Bench.new (.new context lease options wire draw)).Balanced where
  inTurn := .new _ rfl rfl rfl
  settled := .new
  accounted := .new
  faulted := rfl
  agrees := by
    refine ⟨fun x => ?_, fun x hx => ?_, fun r hr => ?_⟩
    · cases x <;> rfl
    · cases x <;> cases hx
    · cases hr

theorem step (h : b.Balanced) (hs : b.Step x b') : b'.Balanced := by
  obtain ⟨hi, hl, ha, hf⟩ := hs.keeps
    (P := fun s => s.Settled ∧ s.Accounted {} ∧ s.Faulted)
    (fun s c t hc hi h hs => ⟨h.1.step hc hi hs, h.2.1.step hc h.1 hs, h.2.2.step hs⟩)
    h.inTurn ⟨h.settled, h.accounted, h.faulted⟩
  exact ⟨hi, hl, ha, hf, hs.agrees h.inTurn h.accounted h.agrees⟩

/-- At no time has more been asked than was made. -/
theorem counted_le (h : b.Balanced) {x : Request} (hx : b.transport.has x = true) :
    b.transport.counted x ≤ 1 := by
  have ha := h.accounted.all x
  rw [h.agrees.made, if_pos hx] at ha
  rw [h.agrees.counted x hx]
  omega

/-- When no call opens the pump and some call for shutdown has returned, nothing is owed any more. -/
theorem dues_eq_nil (h : b.Balanced) (ho : b.session.openers = [])
    (hs : hasShutDown b.session.history = true) : ∀ e ∈ b.session.dues, e = {} := by
  have hd := h.inTurn.ended hs
  have hr := h.inTurn.runners_of_done hd
  have hc := h.settled.of_closed (h.settled.done hd)
  exact fun e he => Session.Accounted.dues_eq_nil ho hr hc he

theorem counted_eq (h : b.Balanced) (hn : ∀ e ∈ b.session.dues, e = {}) {x : Request}
    (hx : b.transport.has x = true) : b.transport.counted x = 1 := by
  rw [h.agrees.counted x hx, h.accounted.count_released hn, h.agrees.made, if_pos hx]

end Balanced

/-! What the account says of each client and each receiver. -/

theorem closeCalls_client {client : Client} (h : client ∈ b.transport.clients) :
    ∃ x, b.transport.has x = true ∧ client.closeCalls = b.transport.counted x := by
  obtain ⟨c, hc⟩ := Array.mem_iff_getElem?.1 h
  refine ⟨.closeClient c, ?_, ?_⟩
  · obtain ⟨hl, -⟩ := Array.getElem?_eq_some_iff.1 hc
    simpa [Transport.has] using hl
  · rw [Transport.counted, hc]
    rfl

theorem calls_receiver {receiver : Receiver} (h : receiver ∈ b.transport.receivers) :
    ∃ x y, (b.transport.has x = true ∧ receiver.clearCalls = b.transport.counted x)
      ∧ b.transport.has y = true ∧ receiver.closeCalls = b.transport.counted y := by
  obtain ⟨r, hr⟩ := Array.mem_iff_getElem?.1 h
  obtain ⟨hl, -⟩ := Array.getElem?_eq_some_iff.1 hr
  refine ⟨.clearHandler r, .closeReceiver r, ⟨?_, ?_⟩, ?_, ?_⟩
  · simpa [Transport.has] using hl
  · rw [Transport.counted, hr]
    rfl
  · simpa [Transport.has] using hl
  · rw [Transport.counted, hr]
    rfl

end Bench

/-! ## The end of a run -/

section Main

variable {context : Context} {lease : Lease} {options : Options} {wire : String} {draw : Nat → Nat}

/-- No client and no receiver is ever released twice, and a fault is published for each step of a
teardown that fails. Once no call opens the pump and some call for shutdown has returned, each of them
has been released: the handler of every receiver was cleared, then the receiver was closed, and then
the client it was made from. -/
theorem released_exactly_once {xs : List Stimulus} {b : Bench}
    (h : (Bench.new (.new context lease options wire draw)).run xs = some b) :
    (∀ client ∈ b.transport.clients, client.closeCalls ≤ 1)
      ∧ (∀ receiver ∈ b.transport.receivers, receiver.clearCalls ≤ 1 ∧ receiver.closeCalls ≤ 1)
      ∧ announced .teardownFault b.session.history = faultsIn b.session.history
      ∧ (b.session.openers = [] → hasShutDown b.session.history = true →
        (∀ client ∈ b.transport.clients, client.closeCalls = 1)
          ∧ (∀ receiver ∈ b.transport.receivers, receiver.clearCalls = 1 ∧ receiver.closeCalls = 1)
          ∧ (∀ r < b.transport.receivers.size,
            ∃ c ∈ connections b.session.history, c.receiver = r)
          ∧ ∀ c ∈ connections b.session.history,
            [.clearHandler c.receiver, .closeReceiver c.receiver, .closeClient c.client].Sublist
              (released b.session.history)) := by
  have hb : b.Balanced := Bench.run_induction .new (fun b x b' h hs => h.step hs) h
  refine ⟨fun client hm => ?_, fun receiver hm => ?_, hb.faulted, fun ho hs => ?_⟩
  · obtain ⟨x, hx, he⟩ := Bench.closeCalls_client hm
    exact he ▸ hb.counted_le hx
  · obtain ⟨x, y, ⟨hx, he⟩, hy, hf⟩ := Bench.calls_receiver hm
    exact ⟨he ▸ hb.counted_le hx, hf ▸ hb.counted_le hy⟩
  · have hn := hb.dues_eq_nil ho hs
    refine ⟨fun client hm => ?_, fun receiver hm => ?_, fun r hr => ?_, fun c hc => ?_⟩
    · obtain ⟨x, hx, he⟩ := Bench.closeCalls_client hm
      rw [he, hb.counted_eq hn hx]
    · obtain ⟨x, y, ⟨hx, he⟩, hy, hf⟩ := Bench.calls_receiver hm
      rw [he, hf, hb.counted_eq hn hx, hb.counted_eq hn hy]
      exact ⟨rfl, rfl⟩
    · exact hb.agrees.connected r (by simpa [Transport.has] using hr)
    · exact hb.accounted.sublist_released hn hc

/-- The pump is shut down when it runs, and the receiver fails to close. -/
theorem released_exactly_once_after_running :
    ∃ b, Bench.sample.run (Bench.opening ++ [.own (.shutdown .leaseLost), .pass 1, .drain 1 none,
        .close 1 (some ⟨.other, ""⟩), .close 1 none, .own (.answer 1 (.hook (.ok ())))]) = some b
      ∧ announced .teardownFault b.session.history = 1
      ∧ b.transport.clients.size = 1 ∧ ∀ client ∈ b.transport.clients, client.closeCalls = 1 := by
  have hr : (Bench.sample.run (Bench.opening ++ [.own (.shutdown .leaseLost), .pass 1, .drain 1 none,
        .close 1 (some ⟨.other, ""⟩), .close 1 none, .own (.answer 1 (.hook (.ok ())))])).map
      (fun b => (b.session.openers.length, hasShutDown b.session.history,
        faultsIn b.session.history, b.transport.clients.size)) = some (0, true, 1, 1) := by rfl
  obtain ⟨b, hb, he⟩ := Option.map_eq_some_iff.1 hr
  simp only [Prod.mk.injEq, List.length_eq_zero_iff] at he
  obtain ⟨ho, hs, hf, hc⟩ := he
  obtain ⟨-, -, hn, hd⟩ := released_exactly_once hb
  exact ⟨b, hb, hn.trans hf, hc, (hd ho hs).1⟩

end Main
end PartitionConsumer
