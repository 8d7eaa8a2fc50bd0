import PartitionConsumer.Proofs.Session.Steps
/-!
# Calls in progress

Each call waits under a number of its own, and what it waits for fits what it is on. The call that
opens the pump and the one that runs the shutdown procedure are singled out.
-/
namespace PartitionConsumer

structure Turn where
  ticket : Nat
  reason : CloseReason
  stage : ShutdownStage
  deriving DecidableEq, Repr, Inhabited

namespace Call

/-- How far a call that opens the pump is. -/
def opening? : Call → Option OpenStage
  | .start stage => some stage
  | _ => none

def turn? : Call → Option Turn
  | .shutdown _ _ .queued => none
  | .shutdown ticket reason stage => some ⟨ticket, reason, stage⟩
  | _ => none

@[simp] theorem opening?_start (stage : OpenStage) : (start stage).opening? = some stage := rfl

theorem eq_start_of_opening? {c : Call} {stage : OpenStage} (h : c.opening? = some stage) :
    c = .start stage := by
  cases c <;> cases h
  rfl

end Call

namespace Next

def call? : Next → Option Call
  | .ask _ c | .wait c => some c
  | .finish | .crash => none

def opening? (nx : Next) : Option OpenStage := nx.call?.bind Call.opening?

def turn? (nx : Next) : Option Turn := nx.call?.bind Call.turn?

@[simp] theorem opening?_ask (r : Request) (c : Call) : (ask r c).opening? = c.opening? := rfl
@[simp] theorem opening?_wait (c : Call) : (wait c).opening? = c.opening? := rfl
@[simp] theorem opening?_finish : finish.opening? = none := rfl
@[simp] theorem opening?_crash : crash.opening? = none := rfl
@[simp] theorem turn?_ask (r : Request) (c : Call) : (ask r c).turn? = c.turn? := rfl
@[simp] theorem turn?_wait (c : Call) : (wait c).turn? = c.turn? := rfl
@[simp] theorem turn?_finish : finish.turn? = none := rfl

/-- A call that is over is at no stage of an open. -/
theorem forall_opening? {nx : Next} (h : nx.call? = none) {P : OpenStage → Prop} :
    ∀ stage ∈ nx.opening?, P stage := by
  rw [opening?, h]
  nofun

theorem call?_waiting? (nx : Next) (errand : Errand) {α : Type} (f : Call → Option α) :
    (nx.waiting? errand).bind (fun w => f w.call) = nx.call?.bind f := by
  cases nx <;> rfl

end Next

inductive OpenStage.Asks : OpenStage → Option Request → Prop where
  | onOpen : Asks .onOpen (some (.hook .onOpen))
  | refused (e : ProcessorError) : Asks (.refused e) (some (.hook (.onError (.onOpen e))))
  | lateClose (reason : CloseReason) : Asks .lateClose (some (.hook (.onClose reason)))
  | client (a : Attempt) : Asks (.client a) (some .createClient)
  | clientReady (a : Attempt) (answer) : Asks (.clientReady a answer) none
  | receiver (a : Attempt) (client : Nat) (request : ReceiverRequest) :
    Asks (.receiver a client) (some (.createReceiver client request))
  | receiverReady (a : Attempt) (client : Nat) (answer) : Asks (.receiverReady a client answer) none
  | abandon (a : Attempt) (f : AttemptFailure) (client : Nat) :
    Asks (.abandon a f) (some (.closeClient client))
  | backoff (a : Attempt) (wake : Nat) : Asks (.backoff a wake) none
  | failed (e : OpenError) : Asks (.failed e) (some (.hook (.onError (.opening e))))
  | release (r : Release) (closing : Bool) : Asks (.release r closing) (some r.request)

inductive ShutdownStage.Asks (reason : CloseReason) : ShutdownStage → Option Request → Prop where
  | queued : Asks reason .queued none
  | settling (wake : Nat) : Asks reason (.settling wake) none
  | release (r : Release) : Asks reason (.release r) (some r.request)
  | onClose : Asks reason .onClose (some (.hook (.onClose reason)))

theorem ShutdownStage.Asks.of_release {reason : CloseReason} {r : Release} {request : Option Request}
    (h : Asks reason (.release r) request) : request = some r.request := by
  cases h
  rfl

theorem ShutdownStage.Asks.of_queued {reason : CloseReason} {request : Option Request}
    (h : Asks reason .queued request) : request = none := by
  cases h
  rfl

theorem ShutdownStage.Asks.of_onClose {reason : CloseReason} {request : Option Request}
    (h : Asks reason .onClose request) : request = some (.hook (.onClose reason)) := by
  cases h
  rfl

inductive DeliveryStage.Asks : DeliveryStage → Option Request → Prop where
  | onEvents (batch : Batch) : Asks (.onEvents batch.length) (some (.hook (.onEvents batch)))
  | onError (e : ProcessorError) : Asks .onError (some (.hook (.onError (.processor e))))

namespace Waiting

/-- The parts of a waiting call belong together. A ticket is the number of its call. -/
inductive Fits (id : Nat) : Waiting → Prop where
  | start {stage request} (h : OpenStage.Asks stage request) : Fits id ⟨.start, .start stage, request⟩
  | shutdown {reason stage request} (h : ShutdownStage.Asks reason stage request) :
    Fits id ⟨.shutdown reason, .shutdown id reason stage, request⟩
  | deliver {batch stage request} (h : DeliveryStage.Asks stage request) :
    Fits id ⟨.delivery batch, .deliver stage, request⟩
  | report (e : TransportError) : Fits id ⟨.report e, .report id, some (.hook (.onError (.delivery e)))⟩

theorem Fits.of_start {id : Nat} {w : Waiting} {stage : OpenStage} (h : w.Fits id)
    (hc : w.call = .start stage) : w.errand = .start ∧ stage.Asks w.request := by
  cases h with
  | start ha =>
    cases hc
    exact ⟨rfl, ha⟩
  | _ => cases hc

theorem Fits.of_shutdown {id ticket : Nat} {w : Waiting} {reason : CloseReason}
    {stage : ShutdownStage} (h : w.Fits id) (hc : w.call = .shutdown ticket reason stage) :
    w.errand = .shutdown reason ∧ ticket = id ∧ stage.Asks reason w.request := by
  cases h with
  | shutdown ha =>
    cases hc
    exact ⟨rfl, rfl, ha⟩
  | _ => cases hc

theorem Fits.of_deliver {id : Nat} {w : Waiting} {stage : DeliveryStage} (h : w.Fits id)
    (hc : w.call = .deliver stage) :
    (∃ batch, w.errand = .delivery batch) ∧ stage.Asks w.request := by
  cases h with
  | deliver ha =>
    cases hc
    exact ⟨⟨_, rfl⟩, ha⟩
  | _ => cases hc

theorem Fits.of_report {id ticket : Nat} {w : Waiting} (h : w.Fits id)
    (hc : w.call = .report ticket) :
    ticket = id ∧ ∃ e, w.errand = .report e ∧ w.request = some (.hook (.onError (.delivery e))) := by
  cases h with
  | report e =>
    cases hc
    exact ⟨rfl, e, rfl, rfl⟩
  | _ => cases hc

def opening? (w : Waiting) : Option OpenStage := w.call.opening?

def turn? (w : Waiting) : Option Turn := w.call.turn?

end Waiting

namespace Session

variable {α : Type} {s : Session}

def waiting (s : Session) (f : Waiting → Option α) : List α := s.calls.filterMap fun x => f x.2

/-- How far the calls that open the pump are. -/
def openers (s : Session) : List OpenStage := s.waiting Waiting.opening?

/-- The turns of the calls that run the shutdown procedure. -/
def runners (s : Session) : List Turn := s.waiting Waiting.turn?

@[simp] theorem openers_begin (s : Session) (e : Errand) : (s.begin e).openers = s.openers := rfl

theorem waiting_carry (s : Session) (id : Nat) (errand : Errand) (p : Pump) (es : List Effect)
    (nx : Next) (f : Waiting → Option α) :
    (s.carry id errand p es nx).waiting f
      = ((nx.waiting? errand).bind f).toList ++ s.waiting f := by
  unfold waiting
  rw [calls_carry, List.filterMap_append]
  congr 1
  cases h : nx.waiting? errand with
  | none => rfl
  | some w => cases hf : f w <;> simp [hf]

/-- A call is taken out from between the others. -/
theorem exists_calls_take {id : Nat} {w : Waiting} (h : s.call? id = some w) :
    ∃ pre post, s.calls = pre ++ (id, w) :: post ∧ (s.take id).calls = pre ++ post := by
  unfold call? at h
  unfold take
  dsimp only
  generalize s.calls = xs at h
  induction xs with
  | nil => cases h
  | cons x xs ih =>
    obtain ⟨k, v⟩ := x
    by_cases hk : id = k
    · subst hk
      obtain rfl : v = w := by simpa using h
      exact ⟨[], xs, rfl, by simp⟩
    · have hb : (id == k) = false := by simpa using hk
      have hb' : (k == id) = false := by simpa using fun h => hk h.symm
      rw [List.lookup_cons, hb] at h
      obtain ⟨pre, post, rfl, he⟩ := ih h
      refine ⟨(k, v) :: pre, post, rfl, ?_⟩
      rw [List.eraseP_cons_of_neg (by simp [hb']), he]
      rfl

/-- Taking a call out leaves all others. -/
theorem perm_take {id : Nat} {w : Waiting} (h : s.call? id = some w) :
    s.calls.Perm ((id, w) :: (s.take id).calls) := by
  obtain ⟨pre, post, hc, ht⟩ := exists_calls_take h
  rw [hc, ht]
  exact List.perm_middle

theorem mem_of_call? {id : Nat} {w : Waiting} (h : s.call? id = some w) : (id, w) ∈ s.calls :=
  (perm_take h).mem_iff.2 List.mem_cons_self

/-- A call that waits for a hook is told nothing but that the hook has returned. -/
theorem Tells.of_hook {c : Cause} {id : Nat} {w : Waiting} {a : Answer} (h : s.Tells id w a c)
    {call : HookCall} (hr : w.request = some (.hook call)) :
    ∃ outcome, a = .hook outcome ∧ c = .answer id a := by
  cases h with
  | answer _ ha =>
    unfold Waiting.admits at ha
    rw [hr] at ha
    cases a with
    | hook outcome => exact ⟨outcome, rfl, rfl⟩
    | _ => cases ha
  | wake _ hn => cases hr.symm.trans hn

theorem mem_of_mem_take {id : Nat} {x : Nat × Waiting} (h : x ∈ (s.take id).calls) : x ∈ s.calls :=
  List.mem_of_mem_eraseP h

theorem waiting_take {id : Nat} {w : Waiting} (h : s.call? id = some w) (f : Waiting → Option α) :
    (s.waiting f).Perm ((f w).toList ++ (s.take id).waiting f) := by
  have hp := (perm_take h).filterMap fun x => f x.2
  rw [List.filterMap_cons] at hp
  unfold waiting
  cases hf : f w with
  | none => simpa only [hf, Option.toList_none, List.nil_append] using hp
  | some a => simpa only [hf, Option.toList_some, List.singleton_append] using hp

/-- A call in which `f` finds nothing is not missed. -/
theorem waiting_take_of_none {id : Nat} {w : Waiting} (h : s.call? id = some w)
    {f : Waiting → Option α} (hf : f w = none) : (s.take id).waiting f = s.waiting f := by
  obtain ⟨pre, post, hc, ht⟩ := exists_calls_take h
  unfold waiting
  simp [hc, ht, hf]

/-- If `f` finds something in one call only, nothing is left when that call is taken out. -/
theorem waiting_take_of_some {id : Nat} {w : Waiting} {a : α} (h : s.call? id = some w)
    {f : Waiting → Option α} (hf : f w = some a) (hl : (s.waiting f).length ≤ 1) :
    s.waiting f = [a] ∧ (s.take id).waiting f = [] := by
  have hp := waiting_take h f
  rw [hf] at hp
  have hn : (s.take id).waiting f = [] := by
    have := hp.length_eq
    simp only [Option.toList_some, List.length_append, List.length_cons, List.length_nil] at this
    exact List.eq_nil_of_length_eq_zero (by omega)
  rw [hn] at hp
  exact ⟨List.perm_singleton.1 hp, hn⟩

end Session

/-! ## Moves keep the parts of a call together -/

namespace Next

def Fits (nx : Next) (id : Nat) (errand : Errand) : Prop := ∀ w, nx.waiting? errand = some w → w.Fits id

theorem Fits.ask {id : Nat} {errand : Errand} {r : Request} {c : Call}
    (h : Waiting.Fits id ⟨errand, c, some r⟩) : (Next.ask r c).Fits id errand :=
  fun _ hw => Option.some.inj hw ▸ h

theorem Fits.wait {id : Nat} {errand : Errand} {c : Call} (h : Waiting.Fits id ⟨errand, c, none⟩) :
    (Next.wait c).Fits id errand :=
  fun _ hw => Option.some.inj hw ▸ h

theorem Fits.finish {id : Nat} {errand : Errand} : Next.finish.Fits id errand := by
  intro w hw
  cases hw

theorem Fits.crash {id : Nat} {errand : Errand} : Next.crash.Fits id errand := by
  intro w hw
  cases hw

/-- The call that fits is the one that goes on. -/
theorem Fits.of_call? {nx : Next} {id : Nat} {errand : Errand} {call : Call} (h : nx.Fits id errand)
    (hc : nx.call? = some call) : ∃ request, Waiting.Fits id ⟨errand, call, request⟩ := by
  cases nx with
  | ask r c =>
    obtain rfl := Option.some.inj hc
    exact ⟨some r, h _ rfl⟩
  | wait c =>
    obtain rfl := Option.some.inj hc
    exact ⟨none, h _ rfl⟩
  | _ => cases hc

end Next

namespace Pump

variable {p q : Pump} {es : List Effect} {nx : Next} (id : Nat)

theorem AttemptMove.fits {cut : Bool} {shown : List Effect} (h : AttemptMove p cut shown q es nx) :
    nx.Fits id .start := by
  cases h with
  | stop => exact .finish
  | attempt a => exact .ask (.start (.client a))
  | pause a wake => exact .wait (.start (.backoff a wake))
  | report e => exact .ask (.start (.failed e))
  | die => exact .crash

theorem OpenMove.fits {stage : OpenStage} {a : Answer} (h : OpenMove p stage a q es nx) :
    nx.Fits id .start := by
  cases h with
  | refuse e => exact .ask (.start (.refused e))
  | closeLate reason => exact .ask (.start (.lateClose reason))
  | connect _ _ h => exact h.fits id
  | clientAnswered a answer => exact .wait (.start (.clientReady a answer))
  | clientFailed a f _ h => exact h.fits id
  | clientMade a client => exact .ask (.start (.receiver a client _))
  | clientUnwanted a client => exact .ask (.start (.abandon a _ client))
  | receiverAnswered a client answer => exact .wait (.start (.receiverReady a client answer))
  | receiverCancelled a client => exact .ask (.start (.abandon a _ client))
  | receiverFailed a client e => exact .ask (.start (.abandon a _ client))
  | reject a client receiver => exact .ask (.start (.release ⟨⟨client, receiver⟩, .clearHandler⟩ false))
  | abandoned a f _ h => exact h.fits id
  | pauseOver a wake h => exact h.fits id
  | failedReleases e _ c => exact .ask (.start (.release ⟨c, .clearHandler⟩ true))
  | releaseNext r r' closing => exact .ask (.start (.release r' closing))
  | _ => exact .finish

theorem StartMove.fits (h : StartMove p q es nx) : nx.Fits id .start := by
  cases h with
  | ignored => exact .finish
  | opens => exact .ask (.start .onOpen)

variable {id} {now : Nat} {reason : CloseReason}

theorem PassMove.fits {shown : List Effect} (h : PassMove p id reason shown q es nx) :
    nx.Fits id (.shutdown reason) := by
  cases h with
  | hook => exact .ask (.shutdown .onClose)
  | close => exact .finish

theorem DisconnectMove.fits (h : DisconnectMove p id reason q es nx) :
    nx.Fits id (.shutdown reason) := by
  cases h with
  | release c => exact .ask (.shutdown (.release ⟨c, .clearHandler⟩))
  | pass _ hp => exact hp.fits

theorem RunMove.fits (h : RunMove p now id reason q es nx) : nx.Fits id (.shutdown reason) := by
  cases h with
  | closed => exact .finish
  | settle => exact .wait (.shutdown (.settling _))
  | disconnect _ _ hd => exact hd.fits

theorem EnterMove.fits (h : EnterMove p now id reason q es nx) : nx.Fits id (.shutdown reason) := by
  cases h with
  | done => exact .finish
  | queue => exact .wait (.shutdown .queued)
  | run _ _ hr => exact hr.fits

theorem ShutdownMove.fits {stage : ShutdownStage} {a : Answer}
    (h : ShutdownMove p now id reason stage a q es nx) : nx.Fits id (.shutdown reason) := by
  cases h with
  | queuedRun _ hr => exact hr.fits
  | disconnect _ _ _ hd => exact hd.fits
  | releaseNext _ r' => exact .ask (.shutdown (.release r'))
  | releaseEnds _ _ _ hp => exact hp.fits
  | _ => exact .finish

theorem ReceiveMove.fits {batch : Option Batch} (h : ReceiveMove p batch q es nx) :
    nx.Fits id (.delivery batch) := by
  cases h with
  | unheard => exact .finish
  | handle => exact .ask (.deliver (.onEvents _))

theorem DeliveryMove.fits {batch : Option Batch} {stage : DeliveryStage} {a : Answer}
    (h : DeliveryMove p stage a es nx) : nx.Fits id (.delivery batch) := by
  cases h with
  | failed _ e => exact .ask (.deliver (.onError e))
  | _ => exact .finish

end Pump
end PartitionConsumer
