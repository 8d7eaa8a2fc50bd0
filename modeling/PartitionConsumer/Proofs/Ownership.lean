import PartitionConsumer.Proofs.CloseHook
/-!
# Ownership of connections

Whatever the transport makes for a pump is owed its release. A client is owed one request, a connection
three, in a fixed order. At any time one holder owes what was not asked yet: the call that opens the
pump, the pump itself while the connection is installed, or the call that runs the shutdown procedure.
So what was made is what was released and what is still owed.
-/
namespace PartitionConsumer

def Request.isRelease : Request → Bool
  | .clearHandler _ | .closeReceiver _ | .closeClient _ => true
  | _ => false

/-! ## What is owed -/

/-- What one holder owes: the requests still to be made, in order, and the connection they release, if it
is a whole one. -/
structure Due where
  connection : Option Connection := none
  rest : List Request := []
  deriving DecidableEq, Repr, Inhabited

namespace Connection

/-- The requests that release a connection, in order. -/
def owed (c : Connection) : List Request :=
  [.clearHandler c.receiver, .closeReceiver c.receiver, .closeClient c.client]

def due (c : Connection) : Due := ⟨some c, c.owed⟩

end Connection

/-- What is owed for a client that has no receiver. -/
def Due.client (c : Nat) : Due := ⟨none, [.closeClient c]⟩

namespace Release

/-- What is still to be asked after the step that is under way. -/
def owed (r : Release) : List Request :=
  match r.step with
  | .clearHandler => [.closeReceiver r.connection.receiver, .closeClient r.connection.client]
  | .closeReceiver => [.closeClient r.connection.client]
  | .closeClient => []

def due (r : Release) : Due := ⟨some r.connection, r.owed⟩

variable {r r' : Release}

theorem isRelease_request (r : Release) : r.request.isRelease = true := by
  unfold request
  split <;> rfl

theorem owed_of_next (h : r.next? = some r') :
    r.owed = r'.request :: r'.owed ∧ r'.connection = r.connection := by
  obtain ⟨c, step⟩ := r
  cases step with
  | clearHandler =>
    cases h
    exact ⟨rfl, rfl⟩
  | closeReceiver =>
    cases h
    exact ⟨rfl, rfl⟩
  | closeClient => cases h

theorem owed_of_last (h : r.next? = none) : r.owed = [] := by
  obtain ⟨c, step⟩ := r
  cases step with
  | closeClient => rfl
  | _ => cases h

end Release

def OpenStage.due : OpenStage → Due
  | .clientReady _ (.ok c) => .client c
  | .receiver _ c => .client c
  | .receiverReady _ c (.error _) => .client c
  | .receiverReady _ c (.ok r) => Connection.due ⟨c, r⟩
  | .release r _ => r.due
  | _ => {}

def ShutdownStage.due : ShutdownStage → Due
  | .release r => r.due
  | _ => {}

namespace Call

def due : Call → Due
  | .start stage => stage.due
  | .shutdown _ _ stage => stage.due
  | _ => {}

/-- What it owes from an answer on. -/
def dueAfter : Call → Answer → Due
  | .start (.client _), .client (.ok c) => .client c
  | .start (.receiver _ c), .receiver (.ok r) => Connection.due ⟨c, r⟩
  | call, _ => call.due

/-- The releases that an answer makes owed. -/
def made : Call → Answer → List Request
  | .start (.client _), .client (.ok c) => [.closeClient c]
  | .start (.receiver ..), .receiver (.ok r) => [.clearHandler r, .closeReceiver r]
  | _, _ => []

def connection? : Call → Answer → Option Connection
  | .start (.receiver _ c), .receiver (.ok r) => some ⟨c, r⟩
  | _, _ => none

variable {call : Call} {a : Answer}

theorem rest_dueAfter : (call.dueAfter a).rest = call.made a ++ call.due.rest := by
  unfold dueAfter made
  split <;> rfl

theorem dueAfter_of_connection? {c : Connection} (h : call.connection? a = some c) :
    call.dueAfter a = c.due := by
  unfold connection? at h
  split at h
  · cases h
    rfl
  · cases h

/-- An answer changes nothing for a call that holds a whole connection. -/
theorem dueAfter_of_due {c : Connection} (h : call.due.connection = some c) :
    call.dueAfter a = call.due := by
  unfold dueAfter
  split
  · cases h
  · cases h
  · rfl

end Call

def Next.due (nx : Next) : Due := nx.call?.elim {} Call.due

/-- What the pump owes for the connection that is installed. -/
def Pump.due (p : Pump) : Due := p.connection.elim {} Connection.due

theorem Pump.due_congr {p q : Pump} (h : q.connection = p.connection) : q.due = p.due := by
  unfold due
  rw [h]

/-! ## What is paid -/

def Effect.release? : Effect → Option Request
  | .ask r => if r.isRelease then some r else none
  | _ => none

def releases (es : List Effect) : List Request := es.filterMap Effect.release?

@[simp] theorem releases_append (es fs : List Effect) : releases (es ++ fs) = releases es ++ releases fs :=
  List.filterMap_append

theorem releases_eq_nil {es : List Effect} (h : es.countP (Effect.asks Request.isRelease) = 0) :
    releases es = [] := by
  refine List.filterMap_eq_nil_iff.2 fun e he => ?_
  have hn := List.countP_eq_zero.1 h e he
  cases e with
  | ask r => simpa [Effect.release?] using hn
  | _ => rfl

@[simp] theorem releases_request (r : Release) : releases [.ask r.request] = [r.request] := by
  simp [releases, Effect.release?, r.isRelease_request]

structure Due.Paid (d : Due) (rs : List Request) (d' : Due) : Prop where
  rest : d.rest = rs ++ d'.rest
  connection : d'.rest = [] ∨ d'.connection = d.connection

theorem Due.Paid.next {r r' : Release} (h : r.next? = some r') : r.due.Paid [r'.request] r'.due where
  rest := (Release.owed_of_next h).1
  connection := .inr (congrArg some (Release.owed_of_next h).2)

theorem Due.Paid.last {r : Release} (h : r.next? = none) : r.due.Paid [] {} where
  rest := Release.owed_of_last h
  connection := .inl rfl

namespace Pump

variable {p q : Pump} {es : List Effect} {nx : Next}

/-- How a move of a call that owes `d` settles with the pump: the call pays some of it, or leaves all of
it to the pump, or takes over what the pump owes. -/
inductive Pays (d : Due) (p q : Pump) (es : List Effect) (nx : Next) : Prop where
  | keep (hc : q.connection = p.connection) (hd : d.Paid (releases es) nx.due)
  | leave (hp : p.connection = none) (hd : d = q.due) (hr : releases es = []) (hn : nx.due = {})
  | take (hd : d = {}) (hp : p.due.Paid (releases es) nx.due) (hq : q.connection = none)

/-- Nothing is owed, and nothing happens to the connection. -/
theorem Pays.none (hc : q.connection = p.connection) (hr : releases es = []) (hn : nx.due = {}) :
    Pays {} p q es nx := by
  refine .keep hc ⟨?_, .inl ?_⟩
  · rw [hr, hn]
    rfl
  · rw [hn]

/-- The move is as well one of a pump with this connection. -/
theorem Pays.congr {d : Due} {r : Pump} (h : Pays d r q es nx) (hr : r.connection = p.connection) :
    Pays d p q es nx := by
  cases h with
  | keep hc hd => exact .keep (hc.trans hr) hd
  | leave hp hd hs hn => exact .leave (hr.symm.trans hp) hd hs hn
  | take hd hp hq => exact .take hd (due_congr hr ▸ hp) hq

theorem AttemptMove.pays {r : Pump} {cut : Bool} {shown : List Effect}
    (h : AttemptMove r cut shown q es nx) (hr : r.connection = p.connection)
    (hs : shown.countP (Effect.asks Request.isRelease) = 0) : Pays {} p q es nx := by
  have he : releases es = [] := releases_eq_nil ((asked_attempt _ _ h rfl fun _ => rfl).trans hs)
  refine .congr (.none ?_ he ?_) hr
  · cases h <;> rfl
  · cases h <;> rfl

/-- The opening call owes what it holds until it asks for the release or installs the connection. -/
theorem OpenMove.pays {stage : OpenStage} {answer : Answer} (h : OpenMove p stage answer q es nx)
    (hl : p.status = .opening → p.connection = none) :
    Pays ((Call.start stage).dueAfter answer) p q es nx := by
  have hf (r : Release) (outcome) : releases (p.faults r outcome) = [] := releases_eq_nil (by simp)
  have he (s t : String) : releases (p.closingEffects s t) = [] := releases_eq_nil (by simp)
  have hc : releases p.closedEffects = [] := releases_eq_nil (by simp)
  cases h with
  | connect _ _ h => exact h.pays rfl rfl
  | refusedCloses e outcome => exact .none rfl (by rw [releases_append, he, hc]; rfl) rfl
  | clientAnswered a answer => cases answer <;> exact .keep rfl ⟨rfl, .inr rfl⟩
  | clientFailed a f hs h =>
    have hd : (Call.start stage).dueAfter answer = {} := by
      obtain ⟨rfl, rfl, -⟩ | ⟨rfl, rfl, -⟩ | ⟨e, rfl, rfl, -⟩ := hs <;> rfl
    rw [hd]
    exact h.pays rfl (by simp)
  | clientMade => exact .keep rfl ⟨rfl, .inr rfl⟩
  | receiverAnswered a client answer => cases answer <;> exact .keep rfl ⟨rfl, .inr rfl⟩
  | receiverFailed a client e hs =>
    obtain ⟨rfl, rfl, -⟩ | ⟨rfl, rfl⟩ := hs <;> exact .keep rfl ⟨rfl, .inl rfl⟩
  | install a client receiver _ ho => exact .leave (hl ho) rfl rfl rfl
  | reject => exact .keep rfl ⟨rfl, .inr rfl⟩
  | abandoned a f outcome h => exact h.pays rfl (by simp)
  | pauseOver a wake h => exact h.pays rfl rfl
  | failedCloses e outcome => exact .none rfl (by rw [releases_append, he, hc]; rfl) rfl
  | failedReleases e outcome c _ hc =>
    refine .take rfl ?_ rfl
    rw [releases_append, he, due, hc]
    exact ⟨rfl, .inr rfl⟩
  | releaseNext r r' closing outcome hr =>
    refine .keep rfl ?_
    rw [releases_append, hf, releases_request]
    exact .next hr
  | releaseCloses r outcome hr =>
    refine .keep rfl ?_
    rw [releases_append, hf, hc]
    exact .last hr
  | releaseEnds r outcome hr =>
    refine .keep rfl ?_
    rw [hf]
    exact .last hr
  | _ => exact .keep rfl ⟨rfl, .inl rfl⟩

theorem StartMove.pays (h : StartMove p q es nx) : Pays {} p q es nx := by
  cases h <;> exact .none rfl rfl rfl

section Shutdown

variable {now ticket : Nat} {reason : CloseReason}

/-- Nothing is left to be paid when the closing hook is passed. -/
theorem PassMove.pays {d : Due} {shown : List Effect} (h : PassMove p ticket reason shown q es nx)
    (hd : d.Paid (releases shown) {}) : Pays d p q es nx := by
  cases h with
  | hook =>
    refine .keep rfl ?_
    rw [releases_append]
    exact (List.append_nil (releases shown)).symm ▸ hd
  | close =>
    refine .keep rfl ?_
    rw [releases_append, releases_eq_nil (asks_closedEffects _ p), List.append_nil]
    exact hd

/-- A shutdown takes over what the pump owes. -/
theorem DisconnectMove.pays (h : DisconnectMove p ticket reason q es nx) : Pays {} p q es nx := by
  have hu : releases (p.unlinkedEffects reason) = [] := releases_eq_nil (by simp)
  cases h with
  | release c hc =>
    refine .take rfl ?_ rfl
    rw [releases_append, hu, due, hc]
    exact ⟨rfl, .inr rfl⟩
  | pass hc hp =>
    refine .congr (hp.pays ?_) hc.symm
    rw [hu]
    exact ⟨rfl, .inl rfl⟩

theorem RunMove.pays (h : RunMove p now ticket reason q es nx) : Pays {} p q es nx := by
  cases h with
  | closed => exact .none rfl rfl rfl
  | settle => exact .none rfl rfl rfl
  | disconnect _ _ hd => exact hd.pays.congr rfl

theorem EnterMove.pays (h : EnterMove p now ticket reason q es nx) : Pays {} p q es nx := by
  cases h with
  | done => exact .none rfl rfl rfl
  | queue => exact .none rfl rfl rfl
  | run _ _ hr => exact hr.pays.congr rfl

theorem ShutdownMove.pays {stage : ShutdownStage} {a : Answer}
    (h : ShutdownMove p now ticket reason stage a q es nx) : Pays stage.due p q es nx := by
  have hf (r : Release) (outcome) : releases (p.faults r outcome) = [] := releases_eq_nil (by simp)
  cases h with
  | queuedDone => exact .none rfl rfl rfl
  | queuedRun _ hr => exact hr.pays
  | foundClosed => exact .none rfl rfl rfl
  | disconnect _ _ _ hd => exact hd.pays
  | releaseNext r r' outcome hr =>
    refine .keep rfl ?_
    rw [releases_append, hf, releases_request]
    exact .next hr
  | releaseEnds r outcome hr hp =>
    refine hp.pays ?_
    rw [hf]
    exact .last hr
  | close outcome => exact .none rfl (releases_eq_nil (by simp)) rfl

end Shutdown

theorem ReceiveMove.pays {batch : Option Batch} (h : ReceiveMove p batch q es nx) :
    Pays {} p q es nx := by
  cases h <;> exact .none rfl rfl rfl

theorem FailureMove.pays {e : TransportError} (h : FailureMove p e q es) :
    Pays {} p q es .finish := by
  cases h <;> exact .none rfl rfl rfl

theorem DeliveryMove.pays {stage : DeliveryStage} {a : Answer} (h : DeliveryMove p stage a es nx) :
    Pays {} p p es nx := by
  cases h <;> exact .none rfl rfl rfl

end Pump

/-! ## The account of a session -/

def released (h : List Mark) : List Request := releases (effects h)

def Mark.made : Mark → List Request
  | .told _ w a => w.call.made a
  | _ => []

def made (h : List Mark) : List Request := h.flatMap Mark.made

def Mark.connection? : Mark → Option Connection
  | .told _ w a => w.call.connection? a
  | _ => none

/-- The connections that were made: each receiver with the client it was made from. -/
def connections (h : List Mark) : List Connection := h.filterMap Mark.connection?

section Histories

@[simp] theorem released_append (h k : List Mark) : released (h ++ k) = released h ++ released k := by
  simp [released]

@[simp] theorem released_did (id : Nat) (es : List Effect) : released (es.map (.did id)) = releases es := by
  simp [released]

@[simp] theorem released_end (nx : Next) (id : Nat) (errand : Errand) :
    released (nx.marks id errand) = [] := by simp [released, releases]

@[simp] theorem released_marks (w : Waiting) (id : Nat) (a : Answer) : released (w.marks id a) = [] := by
  simp [released, releases]

@[simp] theorem made_append (h k : List Mark) : made (h ++ k) = made h ++ made k := List.flatMap_append

@[simp] theorem made_did (id : Nat) (es : List Effect) : made (es.map (.did id)) = [] := by
  simp [made, Mark.made]

@[simp] theorem made_end (nx : Next) (id : Nat) (errand : Errand) : made (nx.marks id errand) = [] := by
  cases nx <;> rfl

theorem made_marks (w : Waiting) (id : Nat) (a : Answer) : made (w.marks id a) = w.call.made a := by
  unfold Waiting.marks
  split <;> simp [made, Mark.made]

@[simp] theorem connections_append (h k : List Mark) :
    connections (h ++ k) = connections h ++ connections k := List.filterMap_append

@[simp] theorem connections_did (id : Nat) (es : List Effect) : connections (es.map (.did id)) = [] := by
  simp [connections, Mark.connection?]

@[simp] theorem connections_end (nx : Next) (id : Nat) (errand : Errand) :
    connections (nx.marks id errand) = [] := by cases nx <;> rfl

theorem connections_marks (w : Waiting) (id : Nat) (a : Answer) :
    connections (w.marks id a) = (w.call.connection? a).toList := by
  unfold Waiting.marks
  split
  · rename_i hc
    simp [connections, Mark.connection?, hc, Call.connection?]
  · cases hc : w.call.connection? a <;> simp [connections, Mark.connection?, hc]

end Histories

namespace Session

section Carry

variable (b : Session) (id : Nat) (errand : Errand) (q : Pump) (es : List Effect) (nx : Next)

theorem released_carry : released (b.carry id errand q es nx).history
    = released b.history ++ releases es := by
  rw [history_carry, released_append, released_append, released_did, released_end, List.append_nil]

theorem made_carry : made (b.carry id errand q es nx).history = made b.history := by
  rw [history_carry, made_append, made_append, made_did, made_end, List.append_nil, List.append_nil]

theorem connections_carry :
    connections (b.carry id errand q es nx).history = connections b.history := by
  rw [history_carry, connections_append, connections_append, connections_did, connections_end,
    List.append_nil, List.append_nil]

end Carry

/-- What the pump and each of the waiting calls owe. -/
def dues (s : Session) : List Due := s.pump.due :: s.calls.map fun x => x.2.call.due

/-- How often the request `x` is owed. -/
def owes (s : Session) (x : Request) : Nat := (s.dues.flatMap Due.rest).count x

/-- Nothing is lost and nothing is owed twice: what was made is what was released and what is owed, by
the pump, by the calls that wait or, `d`, by the call that goes on. Of every connection the releases that
were asked and those somebody owes are all there are, in their order. -/
structure Accounted (s : Session) (d : Due) : Prop where
  all : ∀ x, (made s.history).count x = (released s.history).count x + d.rest.count x + s.owes x
  each : ∀ c ∈ connections s.history, ∃ paid rest, paid ++ rest = c.owed
    ∧ paid.Sublist (released s.history) ∧ (rest = [] ∨ ⟨some c, rest⟩ ∈ d :: s.dues)

namespace Accounted

variable {s b : Session} {id : Nat} {errand : Errand} {d : Due} {q : Pump} {es : List Effect}
  {nx : Next}

theorem mem_dues_carry {e : Due} (hr : e.rest ≠ []) : e ∈ (b.carry id errand q es nx).dues
    ↔ e = q.due ∨ e = nx.due ∨ e ∈ b.calls.map fun x => x.2.call.due := by
  have hn : e ≠ {} := by
    rintro rfl
    exact hr rfl
  unfold dues
  rw [pump_carry, calls_carry, Pump.due_congr (nx.connection_leave q), List.map_append]
  cases nx <;> simp [Next.waiting?, Next.due, Next.call?, hn]

theorem owes_carry (x : Request) : (b.carry id errand q es nx).owes x
    = q.due.rest.count x + nx.due.rest.count x
      + ((b.calls.map fun x => x.2.call.due).flatMap Due.rest).count x := by
  unfold owes dues
  rw [pump_carry, calls_carry, Pump.due_congr (nx.connection_leave q), List.map_append]
  cases nx <;> simp [Next.waiting?, Next.due, Next.call?, Nat.add_assoc]

theorem carry (h : b.Accounted d) (hp : b.pump.Pays d q es nx) :
    (b.carry id errand q es nx).Accounted {} := by
  refine ⟨fun x => ?_, fun c hc => ?_⟩
  · have ha := h.all x
    rw [made_carry, released_carry, ha, owes_carry, List.count_append, owes, dues, List.flatMap_cons,
      List.count_append]
    cases hp with
    | keep hc hd =>
      rw [hd.rest, Pump.due_congr hc, List.count_append, List.count_nil]
      omega
    | leave hp hd hr hn =>
      have hp' : b.pump.due = {} := by rw [Pump.due, hp]; rfl
      rw [hp', hd, hr, hn, List.count_nil]
      omega
    | take hd hp hq =>
      have hq' : q.due = {} := by rw [Pump.due, hq]; rfl
      rw [hd, hp.rest, hq', List.count_append, List.count_nil]
      omega
  · rw [connections_carry] at hc
    obtain ⟨paid, rest, he, hs, hm⟩ := h.each c hc
    rw [released_carry]
    by_cases hn : rest = []
    · exact ⟨paid, rest, he, hs.trans (List.sublist_append_left _ _), .inl hn⟩
    have same (hd : (⟨some c, rest⟩ : Due) = q.due ∨ ⟨some c, rest⟩ = nx.due
          ∨ ⟨some c, rest⟩ ∈ b.calls.map fun x => x.2.call.due) :
        ∃ paid rest, paid ++ rest = c.owed ∧ paid.Sublist (released b.history ++ releases es)
          ∧ (rest = [] ∨ ⟨some c, rest⟩ ∈ {} :: (b.carry id errand q es nx).dues) :=
      ⟨paid, rest, he, hs.trans (List.sublist_append_left _ _),
        .inr (List.mem_cons_of_mem _ ((mem_dues_carry hn).2 hd))⟩
    have less (hd : Due.Paid ⟨some c, rest⟩ (releases es) nx.due) :
        ∃ paid rest, paid ++ rest = c.owed ∧ paid.Sublist (released b.history ++ releases es)
          ∧ (rest = [] ∨ ⟨some c, rest⟩ ∈ {} :: (b.carry id errand q es nx).dues) := by
      refine ⟨paid ++ releases es, nx.due.rest, ?_, hs.append (.refl _), ?_⟩
      · rw [List.append_assoc, ← hd.rest, he]
      · refine hd.connection.elim .inl fun hc => ?_
        by_cases hn : nx.due.rest = []
        · exact .inl hn
        · have he : (⟨some c, nx.due.rest⟩ : Due) = nx.due := congrArg (Due.mk · nx.due.rest) hc.symm
          rw [he]
          exact .inr (List.mem_cons_of_mem _ ((mem_dues_carry hn).2 (.inr (.inl rfl))))
    rw [dues, List.mem_cons, List.mem_cons] at hm
    obtain hm | hm | hm | hm := hm
    · exact absurd hm hn
    · cases hp with
      | keep _ hd => exact less (hm ▸ hd)
      | leave _ hd => exact same (.inl (hm.trans hd))
      | take hd => exact absurd (congrArg Due.rest (hm.trans hd)) hn
    · cases hp with
      | keep hc => exact same (.inl (hm.trans (Pump.due_congr hc).symm))
      | leave hp =>
        rw [Pump.due, hp] at hm
        exact absurd (congrArg Due.rest hm) hn
      | take _ hp => exact less (hm ▸ hp)
    · exact same (.inr (.inr hm))

/-- Marks that neither make nor release anything do not matter. -/
theorem note (h : s.Accounted {}) {ms : List Mark} (hm : made ms = []) (hr : released ms = [])
    (hk : connections ms = []) : (s.note ms).Accounted {} := by
  refine ⟨?_, ?_⟩
  · rw [history_note, made_append, released_append, hm, hr, List.append_nil, List.append_nil]
    exact h.all
  · rw [history_note, connections_append, released_append, hk, hr, List.append_nil, List.append_nil]
    exact h.each

theorem begin (h : s.Accounted {}) (e : Errand) : (s.begin e).Accounted {} := by
  have hs : Accounted { s with next := s.next + 1 } {} := ⟨h.all, h.each⟩
  exact hs.note rfl rfl rfl

/-- The call that is told an answer owes what it owed before and what the answer has made. -/
theorem told {w : Waiting} {a : Answer} (h : s.Accounted {}) (hw : s.call? id = some w) :
    (s.told id w a).Accounted (w.call.dueAfter a) := by
  have hp := (perm_take hw).map fun x => x.2.call.due
  rw [List.map_cons] at hp
  have hr : released (s.told id w a).history = released s.history := by
    rw [history_told, released_append, released_marks, List.append_nil]
  refine ⟨fun x => ?_, fun c hc => ?_⟩
  · have ha := h.all x
    have hd := (hp.flatMap_right Due.rest).count_eq x
    have ho : (s.told id w a).owes x + w.call.due.rest.count x = s.owes x := by
      unfold owes dues
      rw [List.flatMap_cons, List.count_append, List.flatMap_cons, List.count_append, hd,
        List.flatMap_cons, List.count_append, Nat.add_right_comm, Nat.add_assoc]
      rfl
    rw [hr, history_told, made_append, made_marks, List.count_append, ha, Call.rest_dueAfter,
      List.count_append, ← ho, List.count_nil]
    omega
  · rw [history_told, connections_append, connections_marks, List.mem_append, Option.mem_toList] at hc
    rw [hr]
    obtain hc | hc := hc
    · obtain ⟨paid, rest, he, hs, hm⟩ := h.each c hc
      refine ⟨paid, rest, he, hs, hm.imp_right fun hm => ?_⟩
      rw [dues, List.mem_cons, List.mem_cons, hp.mem_iff, List.mem_cons] at hm
      rw [dues, List.mem_cons, List.mem_cons]
      obtain hm | hm | hm | hm := hm
      · cases hm
      · exact .inr (.inl hm)
      · refine .inl ?_
        rw [Call.dueAfter_of_due (congrArg Due.connection hm.symm)]
        exact hm
      · exact .inr (.inr hm)
    · refine ⟨[], c.owed, rfl, List.nil_sublist _, .inr ?_⟩
      rw [Call.dueAfter_of_connection? hc]
      exact List.mem_cons_self

theorem new {context : Context} {lease : Lease} {options : Options} {wire : String}
    {draw : Nat → Nat} : (Session.new (.new context lease options wire draw)).Accounted {} :=
  ⟨fun _ => rfl, nofun⟩

theorem step {t : Session} {c : Cause} (hd : c.isDrop = false) (hl : s.Settled)
    (h : s.Accounted {}) (hs : s.Step c t) : t.Accounted {} := by
  cases hs with
  | start hm => exact (h.begin .start).carry hm.pays
  | shutdown reason hm => exact (h.begin (.shutdown reason)).carry hm.pays
  | deliver report batch hm => exact (h.begin (.delivery batch)).carry hm.pays
  | fail e hm => exact (h.begin (.failure e)).carry hm.pays
  | report n e he =>
    have hf : (s.forget n).Accounted {} := ⟨h.all, h.each⟩
    exact (hf.begin (.report e)).carry (.none rfl rfl rfl)
  | discard n hn => exact ⟨h.all, h.each⟩
  | tellStart id w a stage ht hw hm =>
    have hb := h.told (a := a) ht.call?
    rw [hw] at hb
    exact hb.carry (hm.pays hl.of_opening)
  | tellShutdown id w a ticket reason stage ht hw hm =>
    have hb := h.told (a := a) ht.call?
    rw [hw] at hb
    exact hb.carry hm.pays
  | tellDelivery id w a stage ht hw hm =>
    have hb := h.told (a := a) ht.call?
    rw [hw] at hb
    exact hb.carry hm.pays
  | tellReport id w outcome ticket ht hw hm =>
    have hb := h.told (a := .hook outcome) ht.call?
    rw [hw] at hb
    exact hb.carry hm.pays
  | drop id w hw => cases hd
  | bump => exact ⟨h.all, h.each⟩
  | pass ticks =>
    have hn : Accounted { s with now := s.now + ticks } {} := ⟨h.all, h.each⟩
    exact hn.note rfl rfl rfl

/-- When no call opens the pump and none shuts it down, and it has no connection, nothing is owed. -/
theorem dues_eq_nil {e : Due} (ho : s.openers = []) (hr : s.runners = [])
    (hc : s.pump.connection = none) (he : e ∈ s.dues) : e = {} := by
  rw [dues, List.mem_cons] at he
  obtain rfl | he := he
  · rw [Pump.due, hc]
    rfl
  · obtain ⟨x, hx, rfl⟩ := List.mem_map.1 he
    have h1 : x.2.opening? = none := List.filterMap_eq_nil_iff.1 ho x hx
    have h2 : x.2.turn? = none := List.filterMap_eq_nil_iff.1 hr x hx
    unfold Waiting.opening? at h1
    unfold Waiting.turn? at h2
    cases hw : x.2.call with
    | start stage =>
      rw [hw] at h1
      cases h1
    | shutdown ticket reason stage =>
      rw [hw] at h2
      cases stage with
      | queued => rfl
      | _ => cases h2
    | _ => rfl

/-- Then everything has been released that was made. -/
theorem count_released (h : s.Accounted {}) (hn : ∀ e ∈ s.dues, e = {}) (x : Request) :
    (released s.history).count x = (made s.history).count x := by
  have ho : s.dues.flatMap Due.rest = [] := by
    refine List.flatMap_eq_nil_iff.2 fun e he => ?_
    rw [hn e he]
  have ha := h.all x
  rw [owes, ho, List.count_nil] at ha
  exact ha.symm

theorem sublist_released (h : s.Accounted {}) (hn : ∀ e ∈ s.dues, e = {}) {c : Connection}
    (hc : c ∈ connections s.history) : c.owed.Sublist (released s.history) := by
  obtain ⟨paid, rest, he, hs, hm⟩ := h.each c hc
  have hr : rest = [] := by
    obtain hm | hm := hm
    · exact hm
    · obtain hm | hm := List.mem_cons.1 hm
      · exact congrArg Due.rest hm
      · exact congrArg Due.rest (hn _ hm)
  rw [hr, List.append_nil] at he
  exact he ▸ hs

end Accounted
end Session

/-! ## What a step makes -/

/-- The transport has made something. -/
def Answer.makes : Answer → Bool
  | .client (.ok _) | .receiver (.ok _) => true
  | _ => false

def Cause.makes : Cause → Bool
  | .answer _ a => a.makes
  | _ => false

namespace Call

variable {call : Call} {a : Answer}

theorem made_of_makes (call : Call) (h : a.makes = false) :
    call.made a = [] ∧ call.connection? a = none := by
  constructor
  · unfold made
    split
    · cases h
    · cases h
    · rfl
  · unfold connection?
    split
    · cases h
    · rfl

theorem makes_ownAnswer? {p : Pump} {now : Nat} (h : call.ownAnswer? p now = some a) :
    a.makes = false := by
  unfold ownAnswer? at h
  split at h
  all_goals repeat' split at h
  all_goals cases h
  all_goals rfl

end Call

namespace Session

variable {s t : Session} {c : Cause} {id : Nat} {w : Waiting} {a : Answer}

theorem Tells.makes (h : s.Tells id w a c) : c.makes = a.makes := by
  cases h with
  | answer _ _ => rfl
  | wake _ _ ha => exact (Call.makes_ownAnswer? ha).symm

theorem made_told (s : Session) (id : Nat) (w : Waiting) (a : Answer) :
    made (s.told id w a).history = made s.history ++ w.call.made a := by
  rw [history_told, made_append, made_marks]

theorem connections_told (s : Session) (id : Nat) (w : Waiting) (a : Answer) :
    connections (s.told id w a).history = connections s.history ++ (w.call.connection? a).toList := by
  rw [history_told, connections_append, connections_marks]

theorem made_begin (s : Session) (e : Errand) : made (s.begin e).history = made s.history := by
  rw [history_begin, made_append]
  exact List.append_nil _

theorem connections_begin (s : Session) (e : Errand) :
    connections (s.begin e).history = connections s.history := by
  rw [history_begin, connections_append]
  exact List.append_nil _

/-- Only the answer to a creation call makes anything. -/
theorem Step.makes_nothing (h : s.Step c t) (hc : c.makes = false) :
    made t.history = made s.history ∧ connections t.history = connections s.history := by
  have launch (s : Session) (e : Errand) (id : Nat) (q es nx) :
      made ((s.begin e).carry id e q es nx).history = made s.history
        ∧ connections ((s.begin e).carry id e q es nx).history = connections s.history := by
    rw [made_carry, connections_carry, made_begin, connections_begin]
    exact ⟨rfl, rfl⟩
  have tell {id : Nat} {w : Waiting} {a : Answer} {e q es nx} (ht : s.Tells id w a c) :
      made ((s.told id w a).carry id e q es nx).history = made s.history
        ∧ connections ((s.told id w a).carry id e q es nx).history = connections s.history := by
    obtain ⟨hm, hk⟩ := w.call.made_of_makes (ht.makes ▸ hc)
    rw [made_carry, connections_carry, made_told, connections_told, hm, hk, List.append_nil]
    exact ⟨rfl, List.append_nil _⟩
  cases h with
  | start => exact launch s _ _ _ _ _
  | shutdown => exact launch s _ _ _ _ _
  | deliver => exact launch s _ _ _ _ _
  | fail => exact launch s _ _ _ _ _
  | report n => exact launch (s.forget n) _ _ _ _ _
  | discard => exact ⟨rfl, rfl⟩
  | tellStart _ _ _ _ ht => exact tell ht
  | tellShutdown _ _ _ _ _ _ ht => exact tell ht
  | tellDelivery _ _ _ _ ht => exact tell ht
  | tellReport _ _ _ _ ht => exact tell ht
  | drop =>
    rw [history_note, made_append, connections_append]
    exact ⟨List.append_nil _, List.append_nil _⟩
  | bump => exact ⟨rfl, rfl⟩
  | pass =>
    rw [history_note, made_append, connections_append]
    exact ⟨List.append_nil _, List.append_nil _⟩

/-- What the answer to a request makes. -/
theorem Step.makes_answer (h : s.Step (.answer id a) t) : ∃ w, s.call? id = some w
    ∧ made t.history = made s.history ++ w.call.made a
    ∧ connections t.history = connections s.history ++ (w.call.connection? a).toList := by
  have tell {id : Nat} {w : Waiting} {a : Answer} {e q es nx} (hw : s.call? id = some w) :
      ∃ v, s.call? id = some v
        ∧ made ((s.told id w a).carry id e q es nx).history = made s.history ++ v.call.made a
        ∧ connections ((s.told id w a).carry id e q es nx).history
          = connections s.history ++ (v.call.connection? a).toList := by
    refine ⟨w, hw, ?_, ?_⟩
    · rw [made_carry, made_told]
    · rw [connections_carry, connections_told]
  cases h with
  | tellStart _ _ _ _ ht => cases ht with | answer hw => exact tell hw
  | tellShutdown _ _ _ _ _ _ ht => cases ht with | answer hw => exact tell hw
  | tellDelivery _ _ _ _ ht => cases ht with | answer hw => exact tell hw
  | tellReport _ _ _ _ ht => cases ht with | answer hw => exact tell hw

end Session

/-! ## Faults of the teardown -/

def Call.isFaulted : Call → Answer → Bool
  | .start (.release ..), .released (.error _) => true
  | .shutdown _ _ (.release _), .released (.error _) => true
  | _, _ => false

def Mark.isFault : Mark → Bool
  | .told _ w a => w.call.isFaulted a
  | _ => false

def faultsIn (h : List Mark) : Nat := h.countP Mark.isFault

namespace Pump

variable {p q : Pump} {es : List Effect} {nx : Next}

@[simp] theorem announces_outcome (p : Pump) (r : Release) (outcome : Except TransportError Unit) :
    (p.faults r outcome).countP (Effect.announces .teardownFault)
      = if outcome.toBool then 0 else 1 := by
  rcases outcome with e | ⟨⟩ <;> simp [faults, Except.toBool]

/-- A fault is published for each step of a teardown that fails, and for nothing else. -/
theorem OpenMove.faulted {stage : OpenStage} {answer : Answer} (h : OpenMove p stage answer q es nx) :
    es.countP (Effect.announces .teardownFault)
      = if (Call.start stage).isFaulted answer then 1 else 0 := by
  cases h with
  | connect _ _ h => exact announced_attempt _ _ h
  | clientFailed a f hs h =>
    have hd : (Call.start stage).isFaulted answer = false := by
      obtain ⟨rfl, rfl, -⟩ | ⟨rfl, rfl, -⟩ | ⟨e, rfl, rfl, -⟩ := hs <;> rfl
    rw [hd, announced_attempt _ _ h]
    simp
  | receiverFailed a client e hs =>
    obtain ⟨rfl, rfl, -⟩ | ⟨rfl, rfl⟩ := hs <;> rfl
  | abandoned a f outcome h =>
    rw [announced_attempt _ _ h]
    simp [Call.isFaulted]
  | pauseOver a wake h => exact announced_attempt _ _ h
  | releaseNext r r' closing outcome hr => cases outcome <;> simp [Call.isFaulted, Except.toBool]
  | releaseCloses r outcome hr => cases outcome <;> simp [Call.isFaulted, Except.toBool]
  | releaseEnds r outcome hr => cases outcome <;> simp [Call.isFaulted, Except.toBool]
  | refusedCloses => simp [closingEffects, Call.isFaulted]
  | failedCloses => simp [closingEffects, Call.isFaulted]
  | failedReleases => simp [closingEffects, Call.isFaulted]
  | _ => simp [Call.isFaulted]

theorem StartMove.faulted (h : StartMove p q es nx) :
    es.countP (Effect.announces .teardownFault) = 0 := by
  cases h <;> simp

section Shutdown

variable {now ticket : Nat} {reason : CloseReason}

theorem PassMove.faulted {shown : List Effect} (h : PassMove p ticket reason shown q es nx) :
    es.countP (Effect.announces .teardownFault)
      = shown.countP (Effect.announces .teardownFault) := by
  cases h <;> simp

theorem DisconnectMove.faulted (h : DisconnectMove p ticket reason q es nx) :
    es.countP (Effect.announces .teardownFault) = 0 := by
  cases h with
  | release => simp
  | pass _ hp =>
    rw [hp.faulted]
    simp

theorem RunMove.faulted (h : RunMove p now ticket reason q es nx) :
    es.countP (Effect.announces .teardownFault) = 0 := by
  cases h with
  | disconnect _ _ hd => exact hd.faulted
  | _ => rfl

theorem EnterMove.faulted (h : EnterMove p now ticket reason q es nx) :
    es.countP (Effect.announces .teardownFault) = 0 := by
  cases h with
  | run _ _ hr => exact hr.faulted
  | _ => rfl

theorem ShutdownMove.faulted {stage : ShutdownStage} {answer : Answer}
    (h : ShutdownMove p now ticket reason stage answer q es nx) :
    es.countP (Effect.announces .teardownFault)
      = if (Call.shutdown ticket reason stage).isFaulted answer then 1 else 0 := by
  cases h with
  | queuedRun _ hr => exact hr.faulted
  | disconnect wake ha _ hd =>
    rw [hd.faulted]
    rfl
  | releaseNext r r' outcome hr => cases outcome <;> simp [Call.isFaulted, Except.toBool]
  | releaseEnds r outcome hr hp =>
    rw [hp.faulted]
    cases outcome <;> simp [Call.isFaulted, Except.toBool]
  | close => simp [Call.isFaulted]
  | _ => rfl

end Shutdown

theorem ReceiveMove.faulted {batch : Option Batch} (h : ReceiveMove p batch q es nx) :
    es.countP (Effect.announces .teardownFault) = 0 := by
  cases h <;> simp

theorem FailureMove.faulted {e : TransportError} (h : FailureMove p e q es) :
    es.countP (Effect.announces .teardownFault) = 0 := by
  cases h <;> simp

theorem DeliveryMove.faulted {stage : DeliveryStage} {a : Answer} (h : DeliveryMove p stage a es nx) :
    es.countP (Effect.announces .teardownFault) = 0 := by
  cases h <;> simp

end Pump

section Histories

@[simp] theorem faultsIn_append (h k : List Mark) : faultsIn (h ++ k) = faultsIn h + faultsIn k :=
  List.countP_append

@[simp] theorem faultsIn_did (id : Nat) (es : List Effect) : faultsIn (es.map (.did id)) = 0 := by
  simp [faultsIn, Mark.isFault]

@[simp] theorem faultsIn_end (nx : Next) (id : Nat) (errand : Errand) :
    faultsIn (nx.marks id errand) = 0 := by cases nx <;> rfl

theorem faultsIn_marks (w : Waiting) (id : Nat) (a : Answer) :
    faultsIn (w.marks id a) = if w.call.isFaulted a then 1 else 0 := by
  unfold Waiting.marks
  split
  · rename_i hc
    simp [faultsIn, Mark.isFault, hc, Call.isFaulted]
  · cases hc : w.call.isFaulted a <;> simp [faultsIn, Mark.isFault, hc]

end Histories

namespace Session

def Faulted (s : Session) : Prop := announced .teardownFault s.history = faultsIn s.history

namespace Faulted

variable {s b : Session} {id : Nat} {errand : Errand} {q : Pump} {es : List Effect} {nx : Next}

theorem carry (h : announced .teardownFault b.history + es.countP (Effect.announces .teardownFault)
    = faultsIn b.history) : (b.carry id errand q es nx).Faulted := by
  unfold Faulted
  rw [announced_carry, history_carry, faultsIn_append, faultsIn_append, faultsIn_did, faultsIn_end]
  exact h

/-- A call begins. -/
theorem launch (h : s.Faulted) (e : Errand) (he : es.countP (Effect.announces .teardownFault) = 0) :
    ((s.begin e).carry id errand q es nx).Faulted := by
  refine carry ?_
  rw [announced_begin, he, history_begin, faultsIn_append]
  exact h

/-- A call is told an answer. -/
theorem tell (h : s.Faulted) {w : Waiting} {a : Answer}
    (he : es.countP (Effect.announces .teardownFault) = if w.call.isFaulted a then 1 else 0) :
    ((s.told id w a).carry id errand q es nx).Faulted := by
  refine carry ?_
  rw [announced_told, he, history_told, faultsIn_append, faultsIn_marks]
  exact congrArg (· + _) h

theorem step {t : Session} {c : Cause} (h : s.Faulted) (hs : s.Step c t) : t.Faulted := by
  cases hs with
  | start hm => exact h.launch _ hm.faulted
  | shutdown reason hm => exact h.launch _ hm.faulted
  | deliver report batch hm => exact h.launch _ hm.faulted
  | fail e hm => exact h.launch _ hm.faulted
  | report n e he =>
    have hf : (s.forget n).Faulted := h
    exact hf.launch _ rfl
  | discard n hn => exact h
  | tellStart id w a stage ht hw hm => exact h.tell (hw ▸ hm.faulted)
  | tellShutdown id w a ticket reason stage ht hw hm => exact h.tell (hw ▸ hm.faulted)
  | tellDelivery id w a stage ht hw hm => exact h.tell (hw ▸ hm.faulted)
  | tellReport id w outcome ticket ht hw hm => exact h.tell (hw ▸ hm.faulted)
  | drop id w hw =>
    unfold Faulted
    rw [history_note, announced_append, faultsIn_append]
    exact h
  | bump => exact h
  | pass ticks =>
    unfold Faulted
    rw [history_note, announced_append, faultsIn_append]
    exact h

end Faulted
end Session
end PartitionConsumer
