import PartitionConsumer.Proofs.Ownership
import PartitionConsumer.Proofs.Statuses
import PartitionConsumer.Proofs.GivenUp.Moorings
import PartitionConsumer.Proofs.Session.Stopping
/-!
# Clients in use

A client lives from the answer that brings it to the call that closes it. Whoever has yet to close a
client has the only one that lives: the call that opens the pump, the pump itself, or the call that shuts
it down. So a pump never has two at a time, and has none when it asks for one or reports that its open
failed. Calls may be dropped at any time; the client of a dropped call is never closed, but then no other
is asked for.
-/
namespace PartitionConsumer

/-! ## The clients of a history -/

/-- The client an answer brings. -/
def Call.client? : Call → Answer → Option Nat
  | .start (.client _), .client (.ok c) => some c
  | _, _ => none

/-- The clients that live after a mark: one more when it is made, one less when it is asked to close. -/
def Mark.clients (live : List Nat) : Mark → List Nat
  | .told _ w a => live ++ (w.call.client? a).toList
  | .did _ (.ask (.closeClient c)) => live.erase c
  | _ => live

/-- The clients that were made and of which none was asked to close since. -/
def liveClients (h : List Mark) : List Nat := h.foldl Mark.clients []

/-- What a pump does only while it has no client. -/
def Effect.isVacant : Effect → Bool
  | .ask .createClient | .ask (.hook (.onError (.opening _))) => true
  | .publish e => e.kind == .openFailed
  | _ => false

theorem Effect.isOfOpen_of_isVacant {e : Effect} (h : e.isVacant = true) : e.isOfOpen = true := by
  unfold isVacant at h
  split at h
  · rfl
  · rfl
  · simp [isOfOpen, connects, blames, eq_of_beq h]
  · cases h

namespace Request

def closes? : Request → Option Nat
  | .closeClient c => some c
  | _ => none

end Request

def clientClosings (es : List Effect) : List Nat := (releases es).filterMap Request.closes?

section Histories

theorem count_diff (x : Nat) (live cs : List Nat) :
    (live.diff cs).count x = live.count x - cs.count x := by
  induction cs generalizing live with
  | nil => rfl
  | cons c cs ih =>
    rw [List.diff_cons, ih, List.count_erase, List.count_cons]
    omega

theorem append_diff (cs live : List Nat) : (cs ++ live).diff cs = live := by
  induction cs with
  | nil => rfl
  | cons c cs ih => rw [List.cons_append, List.diff_cons, List.erase_cons_head, ih]

theorem liveClients_did (live : List Nat) (id : Nat) (es : List Effect) :
    (es.map (.did id)).foldl Mark.clients live = live.diff (clientClosings es) := by
  induction es generalizing live with
  | nil => rfl
  | cons e es ih =>
    rw [List.map_cons, List.foldl_cons, ih]
    cases e with
    | ask r =>
      cases r with
      | closeClient c => exact (List.diff_cons live (clientClosings es) c).symm
      | _ => rfl
    | _ => rfl

theorem liveClients_end (live : List Nat) (nx : Next) (id : Nat) (errand : Errand) :
    (nx.marks id errand).foldl Mark.clients live = live := by cases nx <;> rfl

theorem liveClients_append_did (h : List Mark) (id : Nat) (es : List Effect) :
    liveClients (h ++ es.map (.did id)) = (liveClients h).diff (clientClosings es) := by
  rw [liveClients, List.foldl_append, liveClients_did, liveClients]

theorem liveClients_append_marks (h : List Mark) (w : Waiting) (id : Nat) (a : Answer) :
    liveClients (h ++ w.marks id a) = liveClients h ++ (w.call.client? a).toList := by
  rw [liveClients, List.foldl_append]
  unfold Waiting.marks
  split <;> rfl

end Histories

/-! ## Who has a client -/

def Due.clients (d : Due) : List Nat := d.rest.filterMap Request.closes?

theorem Call.clients_dueAfter (call : Call) (a : Answer) :
    (call.dueAfter a).clients = (call.client? a).toList ++ call.due.clients := by
  cases call with
  | start stage =>
    cases stage with
    | client b =>
      cases a with
      | client answer => cases answer <;> rfl
      | _ => rfl
    | receiver b c =>
      cases a with
      | receiver answer => cases answer <;> rfl
      | _ => rfl
    | _ => rfl
  | _ => rfl

/-- What is paid of the closings and what is left. -/
theorem Due.Paid.clients {d d' : Due} {es : List Effect} (h : d.Paid (releases es) d') :
    d.clients = clientClosings es ++ d'.clients := by
  rw [Due.clients, h.rest, List.filterMap_append]
  rfl

namespace Pump

variable {p q : Pump} {es : List Effect} {nx : Next}

theorem not_vacant_faults (p : Pump) (r : Release) (outcome : Except TransportError Unit) :
    (p.faults r outcome).any Effect.isVacant = false := by
  rcases outcome with e | ⟨⟩ <;> rfl

theorem not_vacant_request (r : Release) : (Effect.ask r.request).isVacant = false := by
  unfold Release.request
  split <;> rfl

theorem OpenMove.vacant {stage : OpenStage} {a : Answer} (h : OpenMove p stage a q es nx)
    (hv : es.any Effect.isVacant = true) : ((Call.start stage).dueAfter a).clients = [] := by
  cases h with
  | clientFailed b f hs =>
    obtain ⟨rfl, rfl, -⟩ | ⟨rfl, rfl, -⟩ | ⟨e, rfl, rfl, -⟩ := hs <;> rfl
  | receiverFailed => cases hv
  | releaseNext r r' closing outcome =>
    rw [List.any_append, not_vacant_faults] at hv
    simp [not_vacant_request] at hv
  | releaseCloses r outcome =>
    rw [List.any_append, not_vacant_faults] at hv
    cases hv
  | releaseEnds r outcome =>
    rw [not_vacant_faults] at hv
    cases hv
  | _ => first | rfl | cases hv

end Pump

namespace Session

/-- What the waiting calls have yet to close. -/
def callsHold (s : Session) : List Nat := (s.calls.map fun x => x.2.call.due).flatMap Due.clients

/-- A client that somebody has yet to close lives, and nobody else has it: the pump, a call that waits or,
`d`, the call that goes on. Before the pump is opened there is none, and a call that opens it has the only
one there is. -/
structure Sole (s : Session) (d : Due) : Prop where
  le : (liveClients s.history).length ≤ 1
  held : ∀ x, d.clients.count x + s.pump.due.clients.count x + s.callsHold.count x
    ≤ (liveClients s.history).count x
  opener : ∀ stage ∈ s.openers, liveClients s.history = stage.due.clients
  unopened : s.pump.status = .uninitialized → liveClients s.history = []
  vacant : Always (fun pre m => ∀ id e, m = .did id e → e.isVacant = true → liveClients pre = []) s.history

namespace Sole

variable {s b t : Session} {id : Nat} {errand : Errand} {d : Due} {q : Pump} {es : List Effect}
  {nx : Next} {c : Cause}

theorem new {context : Context} {lease : Lease} {options : Options} {wire : String}
    {draw : Nat → Nat} : (Session.new (.new context lease options wire draw)).Sole {} where
  le := Nat.zero_le _
  held _ := Nat.le_refl _
  opener := nofun
  unopened _ := rfl
  vacant := .nil

theorem liveClients_carry :
    liveClients (b.carry id errand q es nx).history = (liveClients b.history).diff (clientClosings es) := by
  rw [history_carry, liveClients, List.foldl_append, liveClients_end, ← liveClients,
    liveClients_append_did]

theorem callsHold_carry (x : Nat) : (b.carry id errand q es nx).callsHold.count x
    = nx.due.clients.count x + b.callsHold.count x := by
  unfold callsHold
  rw [calls_carry, List.map_append, List.flatMap_append, List.count_append]
  cases nx <;> simp [Next.waiting?, Next.due, Next.call?, Due.clients]

/-- A waiting call that opens the pump has its client. -/
theorem count_opener_le {stage : OpenStage} (h : stage ∈ b.openers) (x : Nat) :
    stage.due.clients.count x ≤ b.callsHold.count x := by
  obtain ⟨y, hy, hs⟩ := List.mem_filterMap.1 h
  have hc : y.2.call = .start stage := by
    unfold Waiting.opening? Call.opening? at hs
    split at hs
    · rename_i hc
      rw [hc, Option.some.inj hs]
    · cases hs
  have hm : stage.due ∈ b.calls.map fun x => x.2.call.due :=
    List.mem_map.2 ⟨y, hy, by rw [hc]; rfl⟩
  obtain ⟨ds, es, he⟩ := List.append_of_mem hm
  unfold callsHold
  rw [he, List.flatMap_append, List.flatMap_cons, List.count_append, List.count_append]
  omega

/-- A call goes on: what it closes, nobody else has yet to close. -/
theorem carry (h : b.Sole d) (hp : b.pump.Pays d q es nx)
    (ho : ∀ stage ∈ nx.opening?, (liveClients b.history).diff (clientClosings es) = stage.due.clients)
    (hu : q.status = .uninitialized → b.pump.status = .uninitialized)
    (hv : es.any Effect.isVacant = true → liveClients b.history = []) :
    (b.carry id errand q es nx).Sole {} := by
  -- each closing is of a client that the call or the pump had
  have hpaid (x : Nat) : d.clients.count x + b.pump.due.clients.count x
      = (clientClosings es).count x + nx.due.clients.count x + q.due.clients.count x := by
    cases hp with
    | keep hc hd => rw [Pump.due_congr hc, hd.clients, List.count_append]
    | leave hp hd hr hn =>
      have hp' : b.pump.due.clients = [] := by rw [Pump.due, hp]; rfl
      have hn' : nx.due.clients = [] := by rw [hn]; rfl
      rw [clientClosings, hr, hp', hn', hd]
      simp
    | take hd hp hq =>
      have hd' : d.clients = [] := by rw [hd]; rfl
      have hq' : q.due.clients = [] := by rw [Pump.due, hq]; rfl
      rw [hp.clients, hd', hq', List.count_append]
      simp
  refine ⟨?_, fun x => ?_, fun stage hm => ?_, fun hs => ?_, ?_⟩
  · rw [liveClients_carry]
    exact Nat.le_trans (List.diff_sublist _ _).length_le h.le
  · have hh := h.held x
    have hx := hpaid x
    rw [liveClients_carry, callsHold_carry, pump_carry, Pump.due_congr (nx.connection_leave q),
      count_diff]
    have hn : (({} : Due).clients).count x = 0 := rfl
    omega
  · rw [liveClients_carry]
    rw [openers_carry, List.mem_append, Option.mem_toList] at hm
    obtain hm | hm := hm
    · exact ho stage hm
    · -- another call has the only client, so none was closed
      have hl := h.opener stage hm
      have hcl : clientClosings es = [] := by
        refine List.eq_nil_iff_forall_not_mem.2 fun x hx => ?_
        have hpos := List.count_pos_iff.2 hx
        have hh := h.held x
        have hle := count_opener_le hm x
        have hx := hpaid x
        rw [hl] at hh
        omega
      rw [hcl, hl]
      rfl
  · rw [pump_carry, Next.status_leave] at hs
    rw [liveClients_carry, h.unopened (hu hs)]
    exact List.nil_diff _
  · refine always_carry _ _ _ _ _ _ h.vacant (fun pre e post he => ?_) (fun pre m hm i e he => ?_)
    · rintro i e' hm hvac
      obtain ⟨-, rfl⟩ := Mark.did.inj hm
      have hany : es.any Effect.isVacant = true := by
        rw [he, List.any_append, List.any_cons, hvac, Bool.true_or, Bool.or_true]
      rw [liveClients_append_did, hv hany]
      exact List.nil_diff _
    · rcases Next.mem_marks hm with ⟨-, rfl⟩ | ⟨-, rfl⟩ <;> cases he

/-- A call goes on that does not open the pump. -/
theorem aside (h : b.Sole d) (hp : b.pump.Pays d q es nx) (hf : nx.Fits id errand)
    (he : errand ≠ .start) (ha : b.pump.Aside q) (hv : es.any Effect.isOfOpen = false) :
    (b.carry id errand q es nx).Sole {} := by
  refine h.carry hp (fun stage hm => ?_) ha.uninitialized fun hany => ?_
  · rw [hf.opening? he] at hm
    cases hm
  · obtain ⟨e, hm, hvac⟩ := List.any_eq_true.1 hany
    rw [List.any_eq_true.2 ⟨e, hm, Effect.isOfOpen_of_isVacant hvac⟩] at hv
    cases hv

/-- Marks of no effect do not matter. -/
theorem note (h : s.Sole {}) {ms : List Mark} (hl : liveClients (s.history ++ ms) = liveClients s.history)
    (hm : ∀ m ∈ ms, ∀ i e, m ≠ .did i e) : (s.note ms).Sole {} := by
  refine ⟨?_, ?_, ?_, ?_, ?_⟩
  · rw [history_note, hl]
    exact h.le
  · rw [history_note, hl]
    exact h.held
  · rw [history_note, hl]
    exact h.opener
  · rw [history_note, hl]
    exact h.unopened
  · rw [history_note]
    exact h.vacant.append_of_forall fun pre m hk i e he => absurd he (hm m hk i e)

theorem begin (h : s.Sole {}) (e : Errand) : (s.begin e).Sole {} := by
  have hs : Sole { s with next := s.next + 1 } {} := ⟨h.le, h.held, h.opener, h.unopened, h.vacant⟩
  refine hs.note ?_ (by simp)
  rw [liveClients, List.foldl_append]
  rfl

theorem perm_callsHold {w : Waiting} (hw : s.call? id = some w) (x : Nat) :
    s.callsHold.count x = w.call.due.clients.count x + (s.take id).callsHold.count x := by
  have hp := ((perm_take hw).map fun x => x.2.call.due).flatMap_right Due.clients
  rw [List.map_cons, List.flatMap_cons] at hp
  unfold callsHold
  rw [hp.count_eq x, List.count_append]

/-- Only a call that has no client yet is told of one. -/
theorem call_of_client? {w : Waiting} {a : Answer} {x : Nat} (hc : w.call.client? a = some x) :
    ∃ attempt, w.call = .start (.client attempt) := by
  generalize w.call = call at hc
  unfold Call.client? at hc
  split at hc
  · exact ⟨_, rfl⟩
  · cases hc

theorem opener_of_call (h : s.Sole d) {w : Waiting} {stage : OpenStage} (hw : s.call? id = some w)
    (hc : w.call = .start stage) : liveClients s.history = stage.due.clients := by
  refine h.opener stage (List.mem_filterMap.2 ⟨_, mem_of_call? hw, ?_⟩)
  simp [Waiting.opening?, hc]

theorem liveClients_told (s : Session) (id : Nat) (w : Waiting) (a : Answer) :
    liveClients (s.told id w a).history = liveClients s.history ++ (w.call.client? a).toList := by
  rw [history_told, liveClients_append_marks]

/-- A call that is told an answer has what it had before and what the answer brings. -/
theorem told {w : Waiting} {a : Answer} (hi : s.Led) (h : s.Sole {}) (hw : s.call? id = some w) :
    (s.told id w a).Sole (w.call.dueAfter a) := by
  have hl := liveClients_told s id w a
  refine ⟨?_, fun x => ?_, fun stage hm => ?_, fun hs => ?_, ?_⟩
  · rw [hl]
    cases hc : w.call.client? a with
    | none => simpa using h.le
    | some x =>
      obtain ⟨attempt, hcall⟩ := call_of_client? hc
      rw [h.opener_of_call hw hcall]
      exact Nat.le_refl 1
  · have hh := h.held x
    have hx := perm_callsHold hw x
    have hn : (({} : Due).clients).count x = 0 := rfl
    have ht : (s.told id w a).callsHold = (s.take id).callsHold := rfl
    rw [hl, Call.clients_dueAfter, pump_told, ht, List.count_append, List.count_append]
    omega
  · cases hc : w.call.client? a with
    | none =>
      rw [hl, hc, Option.toList_none, List.append_nil]
      exact h.opener stage (mem_waiting_take hm)
    | some x =>
      obtain ⟨attempt, hcall⟩ := call_of_client? hc
      have hm' : stage ∈ (s.take id).openers := hm
      rw [(hi.openers_of_start hw hcall).2.1] at hm'
      cases hm'
  · cases hc : w.call.client? a with
    | none =>
      rw [hl, hc, Option.toList_none, List.append_nil]
      exact h.unopened hs
    | some x =>
      obtain ⟨attempt, hcall⟩ := call_of_client? hc
      have hp := (hi.openers_of_start hw hcall).2.2
      rw [hi.unopened hs] at hp
      cases hp
  · rw [history_told]
    refine h.vacant.append_of_forall fun pre m hm i e he => ?_
    obtain rfl | rfl := Waiting.mem_marks hm <;> cases he

/-- A call that opens the pump has all clients there are. -/
theorem liveClients_told_opener {w : Waiting} {a : Answer} {stage : OpenStage} (h : s.Sole {})
    (hw : s.call? id = some w) (hc : w.call = .start stage) :
    liveClients (s.told id w a).history = ((Call.start stage).dueAfter a).clients := by
  rw [liveClients_told, h.opener_of_call hw hc, Call.clients_dueAfter, ← hc]
  cases hcl : w.call.client? a with
  | none =>
    rw [hc]
    exact List.append_nil _
  | some x =>
    obtain ⟨attempt, hcall⟩ := call_of_client? hcl
    rw [hc] at hcall
    cases hcall
    rw [hc]
    rfl

/-- A call that has all clients there are still has them when it goes on, but for those it closes. -/
theorem diff_clientClosings (h : b.Sole d) (hp : b.pump.Pays d q es nx)
    (hl : liveClients b.history = d.clients)
    (hq : b.pump.connection = none → q.connection = none) :
    (liveClients b.history).diff (clientClosings es) = nx.due.clients := by
  cases hp with
  | keep hc hd => rw [hl, hd.clients, append_diff]
  | leave hp hd hr hn =>
    have hd' : d.clients = [] := by rw [hd, Pump.due, hq hp]; rfl
    rw [hl, hd', hn, List.nil_diff]
    rfl
  | take hd hp =>
    have hd' : d.clients = [] := by rw [hd]; rfl
    have hn : nx.due.clients = [] := by
      refine List.eq_nil_iff_forall_not_mem.2 fun x hx => ?_
      have hpos := List.count_pos_iff.2 hx
      have hh := h.held x
      rw [hl, hd', hp.clients, List.count_append] at hh
      simp only [List.count_nil] at hh
      omega
    rw [hl, hd', hn, List.nil_diff]

theorem step (hi : s.Led) (hh : s.Halted) (h : s.Sole {}) (hs : s.Step c t) : t.Sole {} := by
  cases hs with
  | start hm =>
    refine (h.begin .start).carry hm.pays (fun stage hn => ?_) (fun hu => ?_) fun hv => ?_
    · cases hm with
      | ignored => cases hn
      | opens _ hu =>
        obtain rfl := Option.some.inj hn
        rw [(h.begin .start).unopened hu, List.nil_diff]
        rfl
    · cases hm with
      | ignored => exact hu
      | opens => cases hu
    · cases hm with
      | ignored => cases hv
      | opens => cases hv
  | shutdown reason hm =>
    exact (h.begin _).aside hm.pays hm.fits (by simp) hm.aside hm.apart
  | deliver report batch hm => exact (h.begin _).aside hm.pays hm.fits (by simp) hm.aside hm.apart
  | fail e hm => exact (h.begin _).aside hm.pays .finish (by simp) hm.aside hm.apart
  | report n e he =>
    have hf : (s.forget n).Sole {} := ⟨h.le, h.held, h.opener, h.unopened, h.vacant⟩
    exact (hf.begin (.report e)).aside (.none rfl rfl rfl) (.ask (.report e)) (by simp)
      (.of_eq rfl rfl rfl rfl rfl) rfl
  | discard n hn => exact ⟨h.le, h.held, h.opener, h.unopened, h.vacant⟩
  | tellStart id w a stage ht hw hm =>
    have hb := h.told (a := a) hi ht.call?
    have hl := h.liveClients_told_opener (a := a) ht.call? hw
    rw [hw] at hb
    have hp := hm.pays fun ho => hh.linked.eq_none (by simp [ho]) (by simp [ho])
    refine hb.carry hp (fun stage' hn => ?_) hm.uninitialized fun hv => hl.trans (hm.vacant hv)
    obtain ⟨call, hcall, hst⟩ := Option.bind_eq_some_iff.1 hn
    rw [hb.diff_clientClosings hp hl fun hc => hm.connection hc (by simp [hcall]), Next.due, hcall]
    unfold Call.opening? at hst
    split at hst
    · rw [Option.some.inj hst]
      rfl
    · cases hst
  | tellShutdown id w a ticket reason stage ht hw hm =>
    obtain ⟨he, rfl, -⟩ := (hi.tidy.fits_call ht.call?).of_shutdown hw
    have hb := h.told (a := a) hi ht.call?
    rw [hw] at hb
    exact hb.aside hm.pays (he ▸ hm.fits) (by simp [he]) hm.aside hm.apart
  | tellDelivery id w a stage ht hw hm =>
    obtain ⟨⟨batch, he⟩, -⟩ := (hi.tidy.fits_call ht.call?).of_deliver hw
    have hb := h.told (a := a) hi ht.call?
    rw [hw] at hb
    exact hb.aside hm.pays (he ▸ hm.fits) (by simp [he]) (.of_eq rfl rfl rfl rfl rfl) hm.apart
  | tellReport id w outcome ticket ht hw hm =>
    obtain ⟨rfl, -⟩ := (hi.tidy.fits_call ht.call?).of_report hw
    have hb := h.told (a := .hook outcome) hi ht.call?
    rw [hw] at hb
    exact hb.aside hm.pays hm.fits (by simp) hm.aside hm.apart
  | drop id w hw =>
    have hd : Sole { s.take id with pump := s.pump.abandon w.call } {} := by
      refine ⟨h.le, fun x => ?_, fun stage hm => h.opener stage (mem_waiting_take hm),
        fun hu => h.unopened ((s.pump.status_abandon w.call).symm.trans hu), h.vacant⟩
      have hx := perm_callsHold hw x
      have hh := h.held x
      have ht : callsHold { s.take id with pump := s.pump.abandon w.call } = (s.take id).callsHold := rfl
      have hl : liveClients (s.take id).history = liveClients s.history := rfl
      rw [Pump.due_congr (s.pump.connection_abandon w.call), ht, hl]
      omega
    exact hd.note (by rw [liveClients, List.foldl_append]; rfl) (by simp)
  | bump => exact ⟨h.le, h.held, h.opener, h.unopened, h.vacant⟩
  | pass ticks =>
    have hp : Sole { s with now := s.now + ticks } {} := ⟨h.le, h.held, h.opener, h.unopened, h.vacant⟩
    exact hp.note (by rw [liveClients, List.foldl_append]; rfl) (by simp)

theorem of_run {context : Context} {lease : Lease} {options : Options} {wire : String} {draw : Nat → Nat}
    {cs : List Cause} (h : (Session.new (.new context lease options wire draw)).run cs = some s) :
    s.Sole {} :=
  (run_led (P := fun s => s.Halted ∧ s.Sole {}) (.new _ rfl rfl rfl) ⟨.fresh, .new⟩
    (fun _ _ _ hi ⟨hh, hl⟩ hs => ⟨hh.step hi hs, hl.step hi hh hs⟩) h).2.2

end Sole
end Session

section Main

variable {context : Context} {lease : Lease} {options : Options} {wire : String} {draw : Nat → Nat}

/-- Whatever happens to a pump and its calls, at most one of its clients was not asked to close, and there
is none when it asks for one, tells the error hook that its open failed, or publishes that it has. -/
theorem at_most_one_client {cs : List Cause} {s : Session}
    (h : (Session.new (.new context lease options wire draw)).run cs = some s) :
    (liveClients s.history).length ≤ 1
      ∧ ∀ pre id e post, s.history = pre ++ .did id e :: post → e.isVacant = true →
        liveClients pre = [] := by
  have hk := Session.Sole.of_run h
  refine ⟨hk.le, fun pre id e post he hv => ?_⟩
  exact hk.vacant pre _ post he id e rfl hv

/-- The receiver of the first attempt fails, its client is closed, and the second attempt brings another. -/
theorem at_most_one_client_after_retry :
    ∃ s, Session.sample.run [.start, .answer 0 (.hook (.ok ())), .answer 0 (.client (.ok 7)), .wake 0,
        .answer 0 (.receiver (.error ⟨.connection, "refused"⟩)), .wake 0, .answer 0 (.released (.ok ())),
        .answer 0 (.client (.ok 8))] = some s
      ∧ liveClients s.history = [8] ∧ (liveClients s.history).length ≤ 1 := by
  have hr : (Session.sample.run [.start, .answer 0 (.hook (.ok ())), .answer 0 (.client (.ok 7)), .wake 0,
        .answer 0 (.receiver (.error ⟨.connection, "refused"⟩)), .wake 0, .answer 0 (.released (.ok ())),
        .answer 0 (.client (.ok 8))]).map (fun s => liveClients s.history) = some [8] := by rfl
  obtain ⟨s, hs, he⟩ := Option.map_eq_some_iff.1 hr
  exact ⟨s, hs, he, (at_most_one_client hs).1⟩

end Main
end PartitionConsumer
