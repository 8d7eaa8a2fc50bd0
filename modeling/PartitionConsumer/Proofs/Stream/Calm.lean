import PartitionConsumer.Proofs.Failures.Outcome
/-!
# Nothing but deliveries

As long as no shutdown was requested and the receiver has not failed, the calls in progress are the one that
opens the pump and deliveries. So a pump that runs has deliveries in progress and nothing else, and only a
shutdown or a failure of the receiver takes it out of that state.
-/
namespace PartitionConsumer

def Call.isPlain : Call → Bool
  | .start _ | .deliver _ => true
  | _ => false

namespace Pump

variable {p q : Pump} {es : List Effect} {nx : Next}

/-- A pump that runs is taken down at once by whoever calls for shutdown. -/
theorem EnterMove.leaves_running {now ticket : Nat} {reason : CloseReason}
    (h : EnterMove p now ticket reason q es nx) (hr : p.status = .running) (hb : p.Braced) (ha : p.Afloat) :
    q.status ≠ .running := by
  obtain ⟨hs, hp⟩ := ha (.inl hr)
  have hidle : ¬ (p.once.done = true ∨ p.once.turns ≠ []) := fun hn => by
    rw [hb hn] at hs
    cases hs
  cases h with
  | done hd => exact absurd (.inl hd) hidle
  | queue hd hq =>
    refine absurd (.inr fun hn => ?_) hidle
    rw [Once.isTurnOf_enter_of_empty hd hn] at hq
    cases hq
  | run _ _ hm =>
    cases hm with
    | closed hc => exact absurd (hr.symm.trans hc) nofun
    | settle _ ho => exact absurd ho hp
    | disconnect hc _ hd =>
      have hu := status_unlinked (p := { p with once := p.once.enter ticket, stopping := true }) hc
      cases hd with
      | release => exact fun hn => nomatch hu.symm.trans hn
      | pass _ hpass =>
        cases hpass with
        | hook => exact fun hn => nomatch hu.symm.trans hn
        | close => nofun

end Pump

namespace Session

variable {s t : Session} {c : Cause}

/-- The executor holds nothing, and nothing goes on but the open and deliveries. -/
structure Calm (s : Session) : Prop where
  deferred : s.deferred = []
  calls : ∀ x ∈ s.calls, x.2.call.isPlain = true

namespace Calm

variable {b : Session} {id : Nat} {errand : Errand} {q : Pump} {es : List Effect} {nx : Next}

theorem carry (h : b.Calm) (hn : ∀ call, nx.call? = some call → call.isPlain = true)
    (he : es.filterMap Effect.deferred? = []) : (b.carry id errand q es nx).Calm where
  deferred := by rw [deferred_carry, h.deferred, he]; rfl
  calls x hx := by
    rw [calls_carry, List.mem_append] at hx
    obtain hx | hx := hx
    · obtain ⟨w, hw, rfl⟩ := List.mem_map.1 hx
      have hc := Next.call?_waiting? nx errand some
      rw [Option.mem_toList.1 hw] at hc
      exact hn w.call (by simpa using hc.symm)
    · exact h.calls x hx

theorem begin (h : s.Calm) (e : Errand) : (s.begin e).Calm := ⟨h.deferred, h.calls⟩

theorem told (h : s.Calm) (id : Nat) (w : Waiting) (a : Answer) : (s.told id w a).Calm :=
  ⟨h.deferred, fun x hx => h.calls x (mem_of_mem_take hx)⟩

end Calm

def Sheltered (s : Session) : Prop :=
  s.pump.stopping = false → s.pump.status ≠ .errored → s.Calm

/-- What is not of a failure is handed to nobody. -/
theorem deferred_of_unbroken {es : List Effect} (h : es.any Effect.isOfFailure = false) :
    es.filterMap Effect.deferred? = [] := by
  refine List.filterMap_eq_nil_iff.2 fun e he => ?_
  have hf := List.any_eq_false.1 h e he
  cases e with
  | defer e => exact absurd rfl hf
  | _ => rfl

namespace Sheltered

variable {s t : Session} {c : Cause}

theorem new (p : Pump) : (new p).Sheltered := fun _ _ => ⟨rfl, fun _ hx => absurd hx List.not_mem_nil⟩

/-- Calls of any other kind begin when the shelter is gone, and take it away when they go on. -/
theorem step (hi : s.Led) (hb : s.pump.Braced) (ha : s.pump.Afloat) (h : s.Sheltered) (hs : s.Step c t) :
    t.Sheltered := by
  intro ht he
  have hst : s.pump.stopping = false := by
    cases hc : s.pump.stopping with
    | false => rfl
    | true => exact absurd (hs.stopping hc) (by simp [ht])
  have stops {q : Pump} {b : Session} {id : Nat} {errand : Errand} {es : List Effect} {nx : Next}
      (hq : q.stopping = true) (ht : (b.carry id errand q es nx).pump.stopping = false) :
      (b.carry id errand q es nx).Calm := by
    rw [stopping_leave_of hq] at ht
    cases ht
  cases hs with
  | start hm =>
    rw [pump_carry, Next.status_leave] at he
    cases hm with
    | ignored => exact ((h hst he).begin .start).carry nofun rfl
    | opens _ hu =>
      refine ((h hst (by rw [hu]; nofun)).begin .start).carry (fun call hc => ?_) rfl
      exact Option.some.inj hc ▸ rfl
  | shutdown reason hm => exact stops (hm.stops hb) ht
  | deliver report batch hm =>
    rw [pump_carry, Next.status_leave] at he
    cases hm with
    | unheard => exact ((h hst he).begin _).carry nofun rfl
    | handle =>
      refine ((h hst he).begin _).carry (fun call hc => ?_) rfl
      exact Option.some.inj hc ▸ rfl
  | fail e hm =>
    cases hm with
    | ignored => exact ((h hst he).begin _).carry nofun rfl
    | taken => exact absurd rfl he
  | report n e hn =>
    rw [(h hst he).deferred] at hn
    cases hn
  | discard n hn => exact ⟨by simp [forget, (h hst he).deferred], (h hst he).calls⟩
  | tellStart id w a stage htell hw hm =>
    obtain ⟨-, -, hp⟩ := hi.openers_of_start htell.call? hw
    -- a pump that is being opened has not failed
    have hc := h hst fun hn => (ha (.inr hn)).2 hp
    refine (hc.told id w a).carry (fun call hn => ?_) (deferred_of_unbroken hm.unbroken)
    obtain ⟨-, stage', rfl | ⟨r, rfl⟩⟩ | ⟨-, hnone⟩ := hm.opening
    · exact Option.some.inj hn ▸ rfl
    · exact Option.some.inj hn ▸ rfl
    · rw [hnone] at hn
      cases hn
  | tellShutdown id w a ticket reason stage htell hw hm =>
    obtain ⟨-, -, -, ⟨hd, -⟩ | ⟨hq, -⟩⟩ := hi.told_shutdown htell hw hm
    · exact absurd (hb (.inl hd)) (by simp [hst])
    · exact absurd (hb.of_turn hq) (by simp [hst])
  | tellDelivery id w a stage htell hw hm =>
    rw [pump_carry, hm.leave] at he
    refine ((h hst he).told id w a).carry (fun call hn => ?_) (deferred_of_unbroken hm.unbroken)
    cases hm with
    | failed => exact Option.some.inj hn ▸ rfl
    | _ => cases hn
  | tellReport id w outcome ticket htell hw hm => exact stops (hm.stops hb) ht
  | drop id w hw =>
    have hc := h hst fun hn => he ((s.pump.status_abandon w.call).trans hn)
    exact ⟨hc.deferred, fun x hx => hc.calls x (mem_of_mem_take hx)⟩
  | bump => exact ⟨(h hst he).deferred, (h hst he).calls⟩
  | pass ticks => exact ⟨(h hst he).deferred, (h hst he).calls⟩

/-- In a pump that runs every call in progress is a delivery. -/
theorem delivers (h : s.Sheltered) (hi : s.Led) (ha : s.pump.Afloat) (hr : s.pump.status = .running)
    {x : Nat × Waiting} (hx : x ∈ s.calls) : ∃ stage, x.2.call = .deliver stage := by
  obtain ⟨hs, hp⟩ := ha (.inl hr)
  have hplain := (h hs (by rw [hr]; nofun)).calls x hx
  have hno := hi.opener
  rw [if_neg hp, List.length_eq_zero_iff] at hno
  cases hc : x.2.call with
  | start stage =>
    have hm : stage ∈ s.openers := List.mem_filterMap.2 ⟨x, hx, by simp [Waiting.opening?, hc]⟩
    rw [hno] at hm
    cases hm
  | deliver stage => exact ⟨stage, rfl⟩
  | _ =>
    rw [hc] at hplain
    cases hplain

end Sheltered
end Session
end PartitionConsumer
