import PartitionConsumer.Proofs.Ownership
import PartitionConsumer.Proofs.Session.Drops
/-!
# The release of a connection by callers that may give up

A connection that a pump has held is released step by step by one caller. If that caller is dropped,
nobody takes the rest of the steps.
-/
namespace PartitionConsumer

def Release.left (r : Release) : List Request := r.request :: r.owed

def Mark.carriedOut? : Mark → Option Request
  | .told _ w _ => w.request.filter Request.isRelease
  | _ => none

/-- The steps of releases that came to their end, in order. -/
def carriedOut (h : List Mark) : List Request := h.filterMap Mark.carriedOut?

section Histories

@[simp] theorem carriedOut_append (h k : List Mark) :
    carriedOut (h ++ k) = carriedOut h ++ carriedOut k := by simp [carriedOut]

@[simp] theorem carriedOut_did (id : Nat) (es : List Effect) : carriedOut (es.map (.did id)) = [] := by
  simp [carriedOut, Mark.carriedOut?]

@[simp] theorem carriedOut_end (nx : Next) (id : Nat) (errand : Errand) :
    carriedOut (nx.marks id errand) = [] := by cases nx <;> rfl

theorem carriedOut_marks (w : Waiting) (id : Nat) (a : Answer) :
    carriedOut (w.marks id a) = (w.request.filter Request.isRelease).toList := by
  unfold Waiting.marks
  cases hr : w.request.filter Request.isRelease <;> split <;> simp [carriedOut, Mark.carriedOut?, hr]

end Histories

/-- Nothing is released at this stage. -/
def Turn.isIdle (t : Turn) : Prop := ∀ r, t.stage ≠ .release r

namespace Pump

variable {p q : Pump} {es : List Effect} {nx : Next} {now ticket : Nat} {reason : CloseReason}

inductive Fetches (p q : Pump) (nx : Next) : Prop where
  | stays (hc : q.connection = p.connection) (hn : ∀ t ∈ nx.turn?, t.isIdle)
  | takes (t : Turn) (c : Connection) (hc : p.connection = some c) (hq : q.connection = none)
    (hn : nx.turn? = some t) (ht : t.stage = .release ⟨c, .clearHandler⟩)

theorem Fetches.other (hc : q.connection = p.connection) (hn : nx.turn? = none) : Fetches p q nx :=
  .stays hc (by simp [hn])

theorem PassMove.fetches {shown : List Effect} (h : PassMove p ticket reason shown q es nx) :
    Fetches p q nx := by
  cases h with
  | hook => exact .stays rfl (by simp [Call.turn?, Turn.isIdle])
  | close => exact .other rfl rfl

theorem DisconnectMove.fetches (h : DisconnectMove p ticket reason q es nx) : Fetches p q nx := by
  cases h with
  | release c hc => exact .takes _ c hc rfl rfl rfl
  | pass hc hp =>
    cases hp.fetches with
    | stays hq hn => exact .stays (hq.trans hc.symm) hn
    | takes t c hq => cases hq

theorem RunMove.fetches (h : RunMove p now ticket reason q es nx) : Fetches p q nx := by
  cases h with
  | closed => exact .other rfl rfl
  | settle => exact .stays rfl (by simp [Call.turn?, Turn.isIdle])
  | disconnect _ _ hd =>
    cases hd.fetches with
    | stays hc hn => exact .stays hc hn
    | takes t c hc hq hn ht => exact .takes t c hc hq hn ht

theorem EnterMove.fetches (h : EnterMove p now ticket reason q es nx) : Fetches p q nx := by
  cases h with
  | done => exact .other rfl rfl
  | queue => exact .other rfl rfl
  | run _ _ hr =>
    cases hr.fetches with
    | stays hc hn => exact .stays hc hn
    | takes t c hc hq hn ht => exact .takes t c hc hq hn ht

/-- A caller that releases the connection goes on with the next step, or is past the last one. -/
theorem ShutdownMove.fetches {stage : ShutdownStage} {a : Answer}
    (h : ShutdownMove p now ticket reason stage a q es nx) :
    Fetches p q nx ∧ (∀ r, stage = .release r → r.owed = [] ∧ ∀ t ∈ nx.turn?, t.isIdle)
      ∨ ∃ r r', stage = .release r ∧ r.owed = r'.left ∧ r'.connection = r.connection
        ∧ q.connection = p.connection ∧ nx.turn? = some ⟨ticket, reason, .release r'⟩ := by
  cases h with
  | queuedDone => exact .inl ⟨.other rfl rfl, by simp⟩
  | queuedRun _ hr => exact .inl ⟨hr.fetches, by simp⟩
  | foundClosed => exact .inl ⟨.other rfl rfl, by simp⟩
  | disconnect _ _ _ hd => exact .inl ⟨hd.fetches, by simp⟩
  | releaseNext r r' outcome hr =>
    obtain ⟨ho, hc⟩ := Release.owed_of_next hr
    exact .inr ⟨r, r', rfl, ho, hc, rfl, rfl⟩
  | releaseEnds r outcome hr hp =>
    refine .inl ⟨hp.fetches, fun r' he => ?_⟩
    obtain rfl := ShutdownStage.release.inj he
    refine ⟨Release.owed_of_last hr, ?_⟩
    cases hp with
    | hook => simp [Call.turn?, Turn.isIdle]
    | close => simp
  | close => exact .inl ⟨.other rfl rfl, by simp⟩

end Pump

namespace Session

/-- Who is to carry out the rest of the release of `c`: the pump that holds it, the caller that releases
it, or nobody any more. If anything is left then, a caller was dropped that released it. -/
inductive Holds (c : Connection) (ws : List Waiting) (s : Session) : List Request → Prop where
  | pump (hc : s.pump.connection = some c) : Holds c ws s c.owed
  | caller (t : Turn) (r : Release) (hc : s.pump.connection = none) (ht : t ∈ s.runners)
    (hr : t.stage = .release r) (he : r.connection = c) : Holds c ws s r.left
  | nobody (rest : List Request) (hc : s.pump.connection = none) (ht : ∀ t ∈ s.runners, t.isIdle)
    (hw : rest = [] ∨ ∃ w ∈ ws, ∃ ticket reason r, w.call = .shutdown ticket reason (.release r)
      ∧ r.connection = c ∧ rest = r.left) : Holds c ws s rest

theorem Holds.carry {c : Connection} {ws : List Waiting} {s b : Session} {rest : List Request}
    {id : Nat} {errand : Errand} {q : Pump} {es : List Effect} {nx : Next} (h : Holds c ws s rest)
    (hk : ∀ t ∈ s.runners, t ∈ b.runners ∨ t.isIdle) (hs : ∀ t ∈ b.runners, t ∈ s.runners)
    (hm : s.pump.Fetches q nx) : Holds c ws (b.carry id errand q es nx) rest := by
  have conn {o : Option Connection} (hq : q.connection = o) :
      (b.carry id errand q es nx).pump.connection = o := by
    rw [pump_carry, Next.connection_leave, hq]
  have mem {t : Turn} : t ∈ (b.carry id errand q es nx).runners ↔ t ∈ nx.turn? ∨ t ∈ b.runners := by
    rw [runners_carry, List.mem_append, Option.mem_toList, Option.mem_def]
  cases h with
  | pump hc =>
    cases hm with
    | stays hq => exact .pump (conn (hq.trans hc))
    | takes t d hd hq hn ht =>
      obtain rfl : d = c := Option.some.inj (hd.symm.trans hc)
      exact .caller t ⟨d, .clearHandler⟩ (conn hq) (mem.2 (.inl hn)) ht rfl
  | caller t r hc ht hr he =>
    cases hm with
    | stays hq =>
      obtain ht | hi := hk t ht
      · exact .caller t r (conn (hq.trans hc)) (mem.2 (.inr ht)) hr he
      · exact absurd hr (hi r)
    | takes _ d hd =>
      rw [hc] at hd
      cases hd
  | nobody _ hc ht hw =>
    cases hm with
    | stays hq hn =>
      refine .nobody rest (conn (hq.trans hc)) (fun t hm => ?_) hw
      exact (mem.1 hm).elim (hn t) fun hm => ht t (hs t hm)
    | takes _ d hd =>
      rw [hc] at hd
      cases hd

theorem Holds.congr {c : Connection} {ws : List Waiting} {s t : Session} {rest : List Request}
    (h : Holds c ws s rest) (hc : t.pump.connection = s.pump.connection) (hr : t.runners = s.runners) :
    Holds c ws t rest := by
  cases h with
  | pump hp => exact .pump (hc.trans hp)
  | caller u r hp hu hs he => exact .caller u r (hc.trans hp) (hr ▸ hu) hs he
  | nobody _ hp hu hw => exact .nobody rest (hc.trans hp) (fun u hm => hu u (hr ▸ hm)) hw

/-- Since the history was `h`, and the pump held `c`: of the release of `c` these steps were carried out
and the rest is still to be, if anybody is left to do it. Nobody opens the pump again. -/
structure Stored (h : List Mark) (c : Connection) (ws : List Waiting) (s : Session) : Prop where
  openers : s.openers = []
  begun : s.pump.status ≠ .uninitialized
  held : ∃ ms rest, s.history = h ++ ms ∧ carriedOut ms ++ rest = c.owed ∧ Holds c ws s rest

namespace Stored

variable {s b : Session} {id : Nat} {errand : Errand} {q : Pump} {es : List Effect} {nx : Next}
  {ws : List Waiting} {h : List Mark} {c : Connection}

theorem carry (hd : s.Stored h c ws) (ho : b.openers = []) (hf : nx.opening? = none)
    (hu : q.status = .uninitialized → s.pump.status = .uninitialized) {ks : List Mark}
    (hb : b.history = s.history ++ ks) (hks : carriedOut ks = [])
    (hk : ∀ t ∈ s.runners, t ∈ b.runners ∨ t.isIdle) (hs : ∀ t ∈ b.runners, t ∈ s.runners)
    (hm : s.pump.Fetches q nx) : (b.carry id errand q es nx).Stored h c ws := by
  obtain ⟨ms, rest, hh, hc, hr⟩ := hd.held
  refine ⟨?_, ?_, ms ++ (ks ++ (es.map (.did id) ++ nx.marks id errand)), rest, ?_, ?_, hr.carry hk hs hm⟩
  · rw [openers_carry, hf, ho]
    rfl
  · rw [pump_carry, Next.status_leave]
    exact fun hq => hd.begun (hu hq)
  · rw [history_carry, hb, hh]
    simp only [List.append_assoc]
  · rw [carriedOut_append, carriedOut_append, carriedOut_append, hks, carriedOut_did, carriedOut_end]
    simpa using hc

/-- A call is told an answer that is no step of a release. -/
theorem carriedOut_marks_eq_nil {w : Waiting} {a : Answer}
    (hr : ∀ r, w.request = some r → r.isRelease = false) : carriedOut (w.marks id a) = [] := by
  rw [carriedOut_marks]
  cases hw : w.request with
  | none => rfl
  | some r => simp [Option.filter, hr r hw]

/-- A call goes on that neither opens the pump nor releases the connection. -/
theorem aside (hd : s.Stored h c ws) (ho : b.openers = s.openers) (hf : nx.Fits id errand)
    (he : errand ≠ .start) (ha : s.pump.Aside q) {ks : List Mark}
    (hb : b.history = s.history ++ ks) (hks : carriedOut ks = []) (hr : b.runners = s.runners)
    (hm : s.pump.Fetches q nx) : (b.carry id errand q es nx).Stored h c ws :=
  hd.carry (ho.trans hd.openers) (hf.opening? he) ha.uninitialized hb hks
    (fun _ ht => .inl (hr ▸ ht)) (fun _ ht => hr ▸ ht) hm

/-- The caller that releases the connection has come a step further. -/
theorem released {w : Waiting} {a : Answer} {k : Cause} {ticket : Nat} {reason : CloseReason}
    {r : Release} (hi : s.Led) (hh : s.Halted) (hd : s.Stored h c ws) (ht : s.Tells ticket w a k)
    (hw : w.call = .shutdown ticket reason (.release r))
    (hm : s.pump.ShutdownMove s.now ticket reason (.release r) a q es nx) :
    ((s.told ticket w a).carry ticket w.errand q es nx).Stored h c ws := by
  obtain ⟨he, -, ho, -⟩ := hi.told_shutdown ht hw hm
  obtain ⟨ms, rest, hs, hc, hold⟩ := hd.held
  have hturn : w.turn? = some ⟨ticket, reason, .release r⟩ := by simp [Waiting.turn?, Call.turn?, hw]
  obtain ⟨hrun, hnone, -⟩ := hi.runners_of_turn ht.call? hturn
  have hcl : s.pump.connection = none := by
    have hp := hh.releasing _ (by rw [hrun]; exact List.mem_cons_self) rfl
    exact hh.linked.eq_none (by simp [hp]) (by simp [hp])
  have hmarks : carriedOut (w.marks ticket a) = [r.request] := by
    rw [carriedOut_marks, ((hi.tidy.fits_call ht.call?).of_shutdown hw).2.2.of_release]
    simp [Option.filter, Release.isRelease_request]
  -- it is this caller that has the connection
  obtain ⟨rfl, hrc⟩ : rest = r.left ∧ r.connection = c := by
    cases hold with
    | pump hp =>
      rw [hcl] at hp
      cases hp
    | caller t r' hp ht hr he =>
      rw [hrun, List.mem_singleton] at ht
      subst ht
      obtain rfl := ShutdownStage.release.inj hr
      exact ⟨rfl, he⟩
    | nobody _ hp ht => exact absurd rfl (ht _ (by rw [hrun]; exact List.mem_cons_self) r)
  have hf : nx.Fits ticket w.errand := he ▸ hm.fits
  have hopen : ((s.told ticket w a).carry ticket w.errand q es nx).openers = [] := by
    rw [openers_carry, hf.opening? (by simp [he]), ho, hd.openers]
    rfl
  have hbegun : ((s.told ticket w a).carry ticket w.errand q es nx).pump.status ≠ .uninitialized := by
    rw [pump_carry, Next.status_leave]
    exact fun hq => hd.begun (hm.aside.uninitialized hq)
  have hrunners : ((s.told ticket w a).carry ticket w.errand q es nx).runners = nx.turn?.toList := by
    rw [runners_carry]
    exact (congrArg _ hnone).trans (List.append_nil _)
  -- what was under way is carried out
  have held (rest : List Request) (hl : r.owed = rest)
      (hr : Holds c ws ((s.told ticket w a).carry ticket w.errand q es nx) rest) :
      ((s.told ticket w a).carry ticket w.errand q es nx).Stored h c ws := by
    refine ⟨hopen, hbegun, ms ++ (w.marks ticket a ++ (es.map (.did ticket) ++ nx.marks ticket w.errand)),
      rest, ?_, ?_, hr⟩
    · rw [history_carry, history_told, hs]
      simp only [List.append_assoc]
    · rw [← hc, Release.left, hl, carriedOut_append, carriedOut_append, carriedOut_append, hmarks,
        carriedOut_did, carriedOut_end]
      simp
  have conn (hq : q.connection = s.pump.connection) :
      ((s.told ticket w a).carry ticket w.errand q es nx).pump.connection = none := by
    rw [pump_carry, Next.connection_leave, hq, hcl]
  obtain ⟨hf, hl⟩ | ⟨r₀, r', hr, ho', hc', hq, hn⟩ := hm.fetches
  · obtain ⟨hlast, hidle⟩ := hl r rfl
    refine held [] hlast ?_
    cases hf with
    | stays hq =>
      refine .nobody [] (conn hq) (fun t ht => hidle t ?_) (.inl rfl)
      rwa [hrunners, Option.mem_toList] at ht
    | takes _ d hd =>
      rw [hcl] at hd
      cases hd
  · obtain rfl := ShutdownStage.release.inj hr
    refine held r'.left ho' (.caller ⟨ticket, reason, .release r'⟩ r' (conn hq) ?_ rfl (hc'.trans hrc))
    rw [hrunners, hn]
    exact List.mem_cons_self

/-- A call for shutdown is told something that releases nothing. -/
theorem told {w : Waiting} {a : Answer} {k : Cause} {ticket : Nat} {reason : CloseReason}
    {stage : ShutdownStage} (hi : s.Led) (hd : s.Stored h c ws) (ht : s.Tells ticket w a k)
    (hw : w.call = .shutdown ticket reason stage) (hn : ∀ r, stage ≠ .release r)
    (hm : s.pump.ShutdownMove s.now ticket reason stage a q es nx) :
    ((s.told ticket w a).carry ticket w.errand q es nx).Stored h c ws := by
  obtain ⟨he, -, ho, hr⟩ := hi.told_shutdown ht hw hm
  have hf : nx.Fits ticket w.errand := he ▸ hm.fits
  have hks : carriedOut (w.marks ticket a) = [] := by
    refine carriedOut_marks_eq_nil fun r hq => ?_
    have ha := ((hi.tidy.fits_call ht.call?).of_shutdown hw).2.2
    rw [hq] at ha
    cases ha with
    | release r => exact absurd rfl (hn r)
    | onClose => rfl
  have hfetch : s.pump.Fetches q nx := by
    obtain ⟨hf, -⟩ | ⟨r, r', hs, -⟩ := hm.fetches
    · exact hf
    · exact absurd hs (hn r)
  obtain ⟨-, -, -, -, hr⟩ | ⟨-, hl, hr⟩ := hr
  · exact hd.aside ho hf (by simp [he]) hm.aside rfl hks hr hfetch
  · refine hd.carry (ho.trans hd.openers) (hf.opening? (by simp [he])) hm.aside.uninitialized rfl hks
      (fun t hx => ?_) (fun t hx => ?_) hfetch
    · obtain ⟨hr, -⟩ | ⟨-, hr⟩ := hr
      · rw [hr] at hx
        cases hx
      · rw [hr, List.mem_singleton] at hx
        subst hx
        exact .inr hn
    · rw [hl] at hx
      cases hx

/-- A caller that is dropped leaves the rest of the release to nobody. -/
theorem drop (hi : s.Led) (hd : s.Stored h c ws) {w : Waiting} (hw : s.call? id = some w) :
    ({ s.take id with pump := s.pump.abandon w.call }.note [.lost id w.errand]).Stored h c
      (ws ++ [w]) := by
  have hs := s.pump.status_abandon w.call
  have hc := s.pump.connection_abandon w.call
  obtain ⟨ms, rest, hh, hcar, hold⟩ := hd.held
  refine ⟨List.eq_nil_iff_forall_not_mem.2 fun st hm => ?_, fun hu => hd.begun (hs.symm.trans hu),
    ms ++ [.lost id w.errand], rest, ?_, ?_, ?_⟩
  · have hm' : st ∈ s.openers := mem_waiting_take hm
    rw [hd.openers] at hm'
    cases hm'
  · rw [history_note, ← List.append_assoc, ← hh]
    rfl
  · rw [carriedOut_append, ← hcar]
    simp [carriedOut, Mark.carriedOut?]
  · cases hold with
    | pump hp => exact .pump (hc.trans hp)
    | caller t r hp ht hr he =>
      cases hn : w.turn? with
      | none =>
        have hrun : (s.take id).runners = s.runners := waiting_take_of_none hw hn
        exact .caller t r (hc.trans hp) (hrun ▸ ht) hr he
      | some turn =>
        obtain ⟨hrun, hnone, -⟩ := hi.runners_of_turn hw hn
        rw [hrun, List.mem_singleton] at ht
        subst ht
        refine .nobody _ (hc.trans hp) (fun u hu => ?_)
          (.inr ⟨w, by simp, t.ticket, t.reason, r, ?_, he, rfl⟩)
        · have hu' : u ∈ (s.take id).runners := hu
          rw [hnone] at hu'
          cases hu'
        · unfold Waiting.turn? Call.turn? at hn
          split at hn
          · cases hn
          · rename_i hcall
            obtain rfl := Option.some.inj hn
            rw [hcall, ← hr]
          · cases hn
    | nobody _ hp ht hl =>
      refine .nobody _ (hc.trans hp) (fun t hm => ht t (mem_waiting_take hm)) (hl.imp_right ?_)
      rintro ⟨v, hv, hx⟩
      exact ⟨v, List.mem_append_left _ hv, hx⟩

/-- No call goes on. -/
theorem still {t : Session} (hd : s.Stored h c ws) (ho : t.openers = s.openers)
    (hr : t.runners = s.runners) (hp : t.pump.connection = s.pump.connection)
    (hs : t.pump.status = s.pump.status) {ks : List Mark} (ht : t.history = s.history ++ ks)
    (hk : carriedOut ks = []) : t.Stored h c ws := by
  obtain ⟨ms, rest, hh, hc, hold⟩ := hd.held
  refine ⟨ho.trans hd.openers, fun hu => hd.begun (hs.symm.trans hu), ms ++ ks, rest, ?_, ?_,
    hold.congr hp hr⟩
  · rw [ht, hh, List.append_assoc]
  · rw [carriedOut_append, hk, List.append_nil, hc]

theorem undropped {t : Session} {k : Cause} (hi : s.Led) (hh : s.Halted) (hd : s.Stored h c ws)
    (hk : k.isDrop = false) (hs : s.Step k t) : t.Stored h c ws := by
  cases hs with
  | start hm =>
    cases hm with
    | ignored =>
      exact hd.carry (b := s.begin _) hd.openers rfl (fun hu => hu) rfl rfl (fun _ ht => .inl ht)
        (fun _ ht => ht) (.other rfl rfl)
    | opens _ hu => exact absurd hu hd.begun
  | shutdown reason hm =>
    exact hd.aside (b := s.begin _) rfl hm.fits (by simp) hm.aside rfl rfl rfl hm.fetches
  | deliver report batch hm =>
    refine hd.aside (b := s.begin _) rfl hm.fits (by simp) hm.aside rfl rfl rfl ?_
    cases hm <;> exact .other rfl rfl
  | fail e hm =>
    refine hd.aside (b := s.begin _) rfl .finish (by simp) hm.aside rfl rfl rfl ?_
    cases hm <;> exact .other rfl rfl
  | report n e he =>
    exact hd.aside (b := (s.forget n).begin _) rfl (.ask (.report e)) (by simp)
      (.of_eq rfl rfl rfl rfl rfl) rfl rfl rfl (.other rfl rfl)
  | discard n hn => exact hd.still rfl rfl rfl rfl (List.append_nil _).symm rfl
  | tellStart id w a stage ht hw hm =>
    obtain ⟨-, ho, -⟩ := hi.told_start ht hw
    rw [hd.openers] at ho
    cases ho
  | tellShutdown id w a ticket reason stage ht hw hm =>
    obtain ⟨-, rfl, -⟩ := hi.told_shutdown ht hw hm
    cases stage with
    | release r => exact hd.released hi hh ht hw hm
    | _ => exact hd.told hi ht hw nofun hm
  | tellDelivery id w a stage ht hw hm =>
    obtain ⟨⟨batch, he⟩, ho, hr⟩ := hi.told_delivery ht hw
    refine hd.aside ho (he ▸ hm.fits) (by simp [he]) (.of_eq rfl rfl rfl rfl rfl) rfl
      (carriedOut_marks_eq_nil fun r hq => ?_) hr ?_
    · have ha := ((hi.tidy.fits_call ht.call?).of_deliver hw).2
      rw [hq] at ha
      cases ha <;> rfl
    · cases hm <;> exact .other rfl rfl
  | tellReport id w outcome ticket ht hw hm =>
    obtain ⟨rfl, hn, ho, hr⟩ := hi.told_report ht hw
    obtain ⟨-, e, -, hq⟩ := (hi.tidy.fits_call ht.call?).of_report hw
    refine hd.aside ho hm.fits (by simp) hm.aside rfl (carriedOut_marks_eq_nil fun r hr => ?_) hr
      hm.fetches
    rw [hq] at hr
    exact Option.some.inj hr ▸ rfl
  | drop => cases hk
  | bump => exact hd.still rfl rfl rfl rfl (List.append_nil _).symm rfl
  | pass ticks => exact hd.still rfl rfl rfl rfl rfl rfl

theorem step {t : Session} {k : Cause} (hi : s.Led) (hh : s.Halted) (hd : s.Stored h c ws)
    (hs : s.Step k t) : t.Stored h c (ws ++ s.drops k) :=
  hs.dropping (fun hk => hd.undropped hi hh hk hs) fun _ _ hw => hd.drop hi hw

end Stored
end Session
end PartitionConsumer
