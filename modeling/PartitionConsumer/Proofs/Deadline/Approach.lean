import PartitionConsumer.Proofs.Deadline.Legs
/-!
# The way to an attempt

When nobody cuts an open short its call is on its route, or is past all attempts: its opening hook has failed, or
it tells a hook how the open ended. So an attempt can only begin with a move along the route, which sets its
deadline.
-/
namespace PartitionConsumer

/-- Nobody shuts the pump down or drops a call, and no receiver has anything to hand over: calls that open the pump
begin and go on, time passes and the lease is raised. -/
def Cause.isUnhindered : Cause → Bool
  | .start | .bump | .pass _ | .answer .. | .wake _ => true
  | _ => false

/-- After the last attempt, or where there is none. -/
def OpenStage.isBeyond : OpenStage → Bool
  | .refused _ | .lateClose | .failed _ | .release .. => true
  | _ => false

/-- The attempts that are made start reading where the terms say. -/
def Point.Reads (terms : Terms) : Point → Prop
  | client _ a | clientReady _ a _ | receiver _ a _ | receiverReady _ a _ _ | abandon _ a _ _ | pause _ a _ =>
    a.cursor = terms.cursor
  | _ => True

namespace Point

variable {terms : Terms} {now epoch : Nat} {pt q : Point} {ans : Answer} {es : List Effect} {a : Attempt}

theorem Reads.cursor (h : pt.Reads terms) (ha : pt.attempt? = some a) : a.cursor = terms.cursor := by
  cases pt with
  | client | clientReady | receiver | receiverReady | abandon =>
    obtain rfl := Option.some.inj ha
    exact h
  | _ => cases ha

theorem Sequel.reads {past : List Nat} {e : TransportError} (h : Sequel terms now epoch past a e q es)
    (ha : a.cursor = terms.cursor) : q.Reads terms := by
  cases h with
  | again | pause => exact ha
  | _ => trivial

theorem Moves.reads (h : Moves terms now epoch pt ans q es) (hr : pt.Reads terms) : q.Reads terms := by
  cases h with
  | begin => rfl
  | clientLate h | clientFailed h | abandoned _ h => exact h.reads hr
  | clientAnswered | clientMade | receiverAnswered | receiverLate | receiverFailed | woken => exact hr
  | _ => trivial

/-- A new attempt begins with its request for a client, and with the deadline that is set then. -/
theorem Moves.begins (h : Moves terms now epoch pt ans q es) (hq : q.attempt? = some a)
    (hp : pt.attempt? ≠ some a) :
    (∃ past, q = .client past a) ∧ terms.options.attemptDeadline? now = some a.deadline
      ∧ ∃ fs, es = fs ++ [.ask .createClient] := by
  have next {past : List Nat} {b : Attempt} {e : TransportError} (h : Sequel terms now epoch past b e q es) :
      (∃ past, q = .client past a) ∧ terms.options.attemptDeadline? now = some a.deadline
        ∧ ∃ fs, es = fs ++ [.ask .createClient] := by
    cases h with
    | again _ _ _ _ hd =>
      obtain rfl := Option.some.inj hq
      exact ⟨⟨_, rfl⟩, hd, [_], rfl⟩
    | _ => cases hq
  cases h with
  | begin _ hd | woken hd =>
    obtain rfl := Option.some.inj hq
    exact ⟨⟨_, rfl⟩, hd, [], rfl⟩
  | clientLate h | clientFailed h | abandoned _ h => exact next h
  | clientAnswered | clientMade | receiverAnswered | receiverLate | receiverFailed => exact absurd hq hp
  | _ => cases hq

end Point

/-- A call past its attempts makes none any more. -/
theorem Pump.OpenMove.past {p q : Pump} {stage : OpenStage} {a : Answer} {es : List Effect} {nx : Next}
    (h : p.OpenMove stage a q es nx) (hs : stage.isBeyond = true ∨ ∃ e, stage = .onOpen ∧ a = .hook (.error e))
    (hu : p.status ≠ .uninitialized) :
    q.status ≠ .uninitialized
      ∧ ∀ w, nx.waiting? .start = some w → ∃ stage', w.call = .start stage' ∧ stage'.isBeyond = true := by
  have returns : ∀ w, Next.finish.waiting? .start = some w →
      ∃ stage', w.call = .start stage' ∧ stage'.isBeyond = true :=
    fun w hw => by cases hw
  have asks {r : Request} {stage' : OpenStage} (hs : stage'.isBeyond = true) (w : Waiting)
      (hw : (Next.ask r (.start stage')).waiting? .start = some w) :
      ∃ stage', w.call = .start stage' ∧ stage'.isBeyond = true := by
    obtain rfl := Option.some.inj hw
    exact ⟨stage', rfl, hs⟩
  cases h with
  | refuse | releaseNext => exact ⟨hu, asks rfl⟩
  | failedReleases => exact ⟨nofun, asks rfl⟩
  | refusedLeaves | closedLate | failedLeaves | releaseEnds => exact ⟨hu, returns⟩
  | refusedCloses | failedCloses | releaseCloses => exact ⟨nofun, returns⟩
  | closeLate | cutShort | connect => obtain h | ⟨e, -, h⟩ := hs <;> cases h
  | clientFailed a f hf =>
    obtain ⟨rfl, -⟩ | ⟨rfl, -⟩ | ⟨e, rfl, -⟩ := hf <;> obtain h | ⟨e, h, -⟩ := hs <;> cases h
  | receiverFailed a c e hf => obtain ⟨rfl, -⟩ | ⟨rfl, -⟩ := hf <;> obtain h | ⟨e, h, -⟩ := hs <;> cases h
  | _ => obtain h | ⟨e, h, -⟩ := hs <;> cases h

namespace Session

variable {terms : Terms} {lease : Lease} {wire : String} {id : Nat} {a : Attempt} {pt : Point} {s t : Session}
  {c : Cause} {w : Waiting} {ans : Answer}

structure PastAttempts (s : Session) : Prop where
  tidy : s.Tidy
  started : s.pump.status ≠ .uninitialized
  calls : ∀ x ∈ s.calls, ∃ stage, x.2.call = .start stage ∧ stage.isBeyond = true

theorem PastAttempts.attempt? (hs : s.PastAttempts) (id : Nat) : s.attempt? id = none := by
  cases hw : s.call? id with
  | none => rw [Session.attempt?, hw]; rfl
  | some w =>
    obtain ⟨stage, hc, hsp⟩ := hs.calls _ (mem_of_call? hw)
    rw [Session.attempt?, hw, Option.bind_some, hc]
    cases stage with
    | refused | lateClose | failed | release => rfl
    | _ => cases hsp

/-- A call goes past its attempts, and so have all others. -/
theorem PastAttempts.of_told (hi : s.Tidy) (hu : s.pump.status ≠ .uninitialized) (ht : s.Tells id w ans c)
    (hs : s.step? c = some t) {stage : OpenStage} (hw : w.call = .start stage)
    (hsp : stage.isBeyond = true ∨ ∃ e, stage = .onOpen ∧ ans = .hook (.error e))
    (hc : ∀ x ∈ (s.take id).calls, ∃ stage, x.2.call = .start stage ∧ stage.isBeyond = true) :
    t.PastAttempts := by
  obtain ⟨q, es, nx, rfl, hm⟩ := ht.opens hi hw hs
  obtain ⟨hq, hnx⟩ := hm.past hsp hu
  refine ⟨hi.step (step_of_step? hi.trace hs), by rwa [pump_carry, Next.status_leave], fun x hx => ?_⟩
  rw [calls_carry] at hx
  obtain hx | hx := List.mem_append.1 hx
  · obtain ⟨v, hv, rfl⟩ := List.mem_map.1 hx
    exact hnx v (Option.mem_toList.1 hv)
  · exact hc x hx

/-- What happens in an open that is not cut short is idle, or tells a call something. -/
theorem idle_or_tells (hc : c.isUnhindered = true) (hs : s.step? c = some t) :
    c.isIdle = true ∨ ∃ id w ans, s.Tells id w ans c := by
  have told (id : Nat) (hid : c.id? = some id) (hdrop : c ≠ .drop id) : ∃ id w ans, s.Tells id w ans c := by
    obtain ⟨w, -, hdr | ⟨ans, ht⟩⟩ := tells_of_step? hid hs
    · exact absurd hdr hdrop
    · exact ⟨id, w, ans, ht⟩
  cases c with
  | start | bump | pass => exact .inl rfl
  | answer j a => exact .inr (told j rfl nofun)
  | wake j => exact .inr (told j rfl nofun)
  | _ => cases hc

theorem PastAttempts.step (h : s.PastAttempts) (hc : c.isUnhindered = true) (hs : s.step? c = some t) :
    t.PastAttempts := by
  obtain hi | ⟨id, w, ans, ht⟩ := idle_or_tells hc hs
  · obtain ⟨⟨lease, hp⟩, hcalls, -, -⟩ := h.tidy.step_idle hs hi h.started
    exact ⟨h.tidy.step (step_of_step? h.tidy.trace hs), hp ▸ h.started, hcalls ▸ h.calls⟩
  · obtain ⟨stage, hcall, hsp⟩ := h.calls _ (mem_of_call? ht.call?)
    exact .of_told h.tidy h.started ht hs hcall (.inl hsp) fun x hx => h.calls x (mem_of_mem_take hx)

/-! ## On the route -/

theorem Stands.id_eq {j : Nat} (hv : s.Stands terms id pt) (hw : s.call? j = some w) : j = id := by
  have hmem := mem_of_call? hw
  rw [hv.calls] at hmem
  obtain ⟨v, -, he⟩ := List.mem_map.1 hmem
  exact (Prod.mk.inj he).1.symm

theorem Stands.of_attempt? {j : Nat} (hv : s.Stands terms id pt) (ha : s.attempt? j = some a) :
    j = id ∧ pt.attempt? = some a := by
  obtain ⟨w, hw, -⟩ := Option.bind_eq_some_iff.1 ha
  obtain rfl := hv.id_eq hw
  exact ⟨rfl, hv.attempt?.symm.trans ha⟩

/-- A call on the route is told something: it goes on to the next point, or past its attempts. -/
theorem Stands.goes (hv : s.Stands terms id pt) (hr : pt.Reads terms) (ht : s.Tells id w ans c)
    (hs : s.step? c = some t) :
    t.PastAttempts ∨ t.now = s.now ∧ ∃ q es nx, pt.Moves terms s.now s.pump.lease.epoch ans q es
      ∧ t.Stands terms id q
      ∧ t.history = s.history ++ w.marks id ans ++ es.map (.did id) ++ Next.marks id .start nx := by
  have hw := hv.call?.symm.trans ht.call?
  have past {stage : OpenStage} (hc : w.call = .start stage)
      (hsp : stage.isBeyond = true ∨ ∃ e, stage = .onOpen ∧ ans = .hook (.error e)) : t.PastAttempts := by
    refine .of_told hv.tidy hv.started ht hs hc hsp fun x hx => ?_
    simp [take, hv.calls, hw] at hx
  by_cases he : ∃ epochs f, pt = .ended epochs f
  · obtain ⟨epochs, f, rfl⟩ := he
    cases f with
    | opened => cases hw
    | failed e =>
      obtain rfl := Option.some.inj hw
      exact .inl (past rfl (.inl rfl))
  · by_cases hh : pt = .hook ∧ ∃ e, ans = .hook (.error e)
    · obtain ⟨rfl, e, rfl⟩ := hh
      obtain rfl := Option.some.inj hw
      exact .inl (past rfl (.inr ⟨e, rfl, rfl⟩))
    · exact .inr (hv.lands ht hs fun _ _ _ hw hm => Pump.goes_route_lands hv.pump (fun b => hr.cursor)
        (fun epochs f hp => he ⟨epochs, f, hp⟩) (fun hp e ha => hh ⟨hp, e, ha⟩) hw (hv.ne_cancelled ht) hm)

inductive Unhindered (terms : Terms) (lease : Lease) (wire : String) (s : Session) : Prop where
  | fresh (hf : s.Fresh (.new terms.context lease terms.options wire terms.draw)) (hn : s.calls = [])
  | stands {id : Nat} {pt : Point} (hv : s.Stands terms id pt) (hr : pt.Reads terms)
  | past (hs : s.PastAttempts)

theorem Fresh.unhindered (hf : s.Fresh (.new terms.context lease terms.options wire terms.draw)) :
    s.Unhindered terms lease wire := by
  obtain hn | ⟨id, hv⟩ := hf.in_hook
  · exact .fresh hf hn
  · exact .stands hv trivial

theorem Fresh.attempt? (hf : s.Fresh (.new terms.context lease terms.options wire terms.draw)) (id : Nat) :
    s.attempt? id = none := by
  obtain hn | ⟨j, hv⟩ := hf.in_hook
  · rw [Session.attempt?, Session.call?, hn]
    rfl
  · refine Option.eq_none_iff_forall_ne_some.2 fun a ha => ?_
    cases (hv.of_attempt? ha).2

/-- In a step the call moves on along its route, or no attempt begins. -/
theorem Unhindered.goes (h : s.Unhindered terms lease wire) (hc : c.isUnhindered = true)
    (hs : s.step? c = some t) :
    t.Unhindered terms lease wire ∧ (∀ id, t.attempt? id = none ∨ t.attempt? id = s.attempt? id)
      ∨ ∃ (id : Nat) (pt : Point) (w : Waiting) (ans : Answer) (q : Point) (es : List Effect) (nx : Next),
        s.Stands terms id pt ∧ pt.Reads terms ∧ pt.Moves terms s.now s.pump.lease.epoch ans q es
        ∧ t.Stands terms id q ∧ t.now = s.now
        ∧ t.history = s.history ++ w.marks id ans ++ es.map (.did id) ++ Next.marks id .start nx := by
  have past (ht : t.PastAttempts) :
      t.Unhindered terms lease wire ∧ ∀ id, t.attempt? id = none ∨ t.attempt? id = s.attempt? id :=
    ⟨.past ht, fun id => .inl (ht.attempt? id)⟩
  obtain hi | ⟨j, w, ans, ht⟩ := idle_or_tells hc hs
  · cases h with
    | fresh hf =>
      have hf' := hf.step hs hi
      exact .inl ⟨hf'.unhindered, fun id => .inl (hf'.attempt? id)⟩
    | stands hv hr =>
      have hv' := (hv.idle hi hs).1
      refine .inl ⟨.stands hv' hr, fun id => .inr ?_⟩
      rw [Session.attempt?, Session.attempt?, Session.call?, Session.call?, hv.calls, hv'.calls]
    | past h => exact .inl (past (h.step hc hs))
  · cases h with
    | fresh _ hn =>
      have hmem := mem_of_call? ht.call?
      rw [hn] at hmem
      cases hmem
    | stands hv hr =>
      obtain rfl := hv.id_eq ht.call?
      obtain hp | ⟨hnow, q, es, nx, hm, hst, hms⟩ := hv.goes hr ht hs
      · exact .inl (past hp)
      · exact .inr ⟨_, _, w, ans, q, es, nx, hv, hr, hm, hst, hnow, hms⟩
    | past h => exact .inl (past (h.step hc hs))

theorem Unhindered.step (h : s.Unhindered terms lease wire) (hc : c.isUnhindered = true)
    (hs : s.step? c = some t) : t.Unhindered terms lease wire := by
  obtain ⟨ht, -⟩ | ⟨id, pt, w, ans, q, es, nx, -, hr, hm, hst, -⟩ := h.goes hc hs
  · exact ht
  · exact .stands hst (hm.reads hr)

theorem Unhindered.of_run {cs : List Cause}
    (h : (Session.new (.new terms.context lease terms.options wire terms.draw)).run cs = some s)
    (hc : cs.all Cause.isUnhindered = true) : s.Unhindered terms lease wire :=
  run_induction (P := Unhindered terms lease wire)
    (Fresh.unhindered ⟨.new _ rfl rfl, lease, .inl ⟨rfl, rfl⟩⟩)
    (fun _ c _ hd hu hv => hu.step (List.all_eq_true.1 hc c hd) hv) h

/-- An attempt that begins with this step has just asked for its client, with the deadline that is set now. -/
theorem Unhindered.begins (h : s.Unhindered terms lease wire) (hc : c.isUnhindered = true)
    (hs : s.step? c = some t) (hb : s.attempt? id ≠ some a) (ha : t.attempt? id = some a) :
    ∃ past, t.Stands terms id (.client past a) ∧ a.cursor = terms.cursor
      ∧ terms.options.attemptDeadline? t.now = some a.deadline ∧ sinceAsked id t.history = 0 := by
  obtain ⟨-, hn⟩ | ⟨j, pt, w, ans, q, es, nx, hv, hr, hm, hst, hnow, hms⟩ := h.goes hc hs
  · obtain hn | he := hn id
    · exact absurd (hn.symm.trans ha) nofun
    · exact absurd (he.symm.trans ha) hb
  · obtain ⟨rfl, hq⟩ := hst.of_attempt? ha
    obtain ⟨⟨past, rfl⟩, hdl, fs, rfl⟩ := hm.begins hq fun hp => hb (hv.attempt?.trans hp)
    refine ⟨past, hst, (hm.reads hr).cursor rfl, hnow.symm ▸ hdl, ?_⟩
    rw [hms, List.map_append, ← List.append_assoc]
    exact sinceAsked_of_ask ..

end Session
end PartitionConsumer
