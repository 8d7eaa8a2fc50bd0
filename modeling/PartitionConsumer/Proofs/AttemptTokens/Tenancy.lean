import PartitionConsumer.Pump.AttemptSlot
/-!
# One attempt after another

What can be done to the slot, one operation at a time: an attempt begins, the attempt in progress settles,
and at any point between the two, or outside of them, somebody cancels what is registered. Whatever the
order, the slot holds the attempt in progress unless that was cancelled, and no later attempt is cancelled
before it begins.
-/
namespace PartitionConsumer

inductive SlotAct where
  | begin
  | finish
  | cancel
  deriving DecidableEq, Repr, Inhabited

/-- The slot, and the attempts so far: how many have begun, and whether the last is in progress. -/
structure Tenancy where
  slot : AttemptSlot := {}
  begun : Nat := 0
  isOpen : Bool := false
  deriving DecidableEq, Repr, Inhabited

namespace Tenancy

/-- An attempt begins when the one before it has settled. -/
def act? (t : Tenancy) : SlotAct → Option Tenancy
  | .begin => if t.isOpen then none else some ⟨t.slot.register (t.begun + 1), t.begun + 1, true⟩
  | .finish => if t.isOpen then some ⟨t.slot.clear, t.begun, false⟩ else none
  | .cancel => some { t with slot := t.slot.cancel }

def acts? (t : Tenancy) : List SlotAct → Option Tenancy
  | [] => some t
  | x :: xs => (t.act? x).bind fun u => u.acts? xs

def Leads (t u : Tenancy) : Prop := ∃ xs, t.acts? xs = some u

/-- The slot holds the attempt in progress as long as that was not cancelled, and nothing else, and only
attempts that have begun were cancelled. -/
structure Sound (t : Tenancy) : Prop where
  held : ∀ n, t.slot.current = some n ↔ (t.isOpen = true ∧ n = t.begun) ∧ t.slot.isRevoked n = false
  revoked : ∀ n, t.slot.isRevoked n = true → n ≤ t.begun

variable {t u v : Tenancy}

theorem acts?_append (t : Tenancy) (xs ys : List SlotAct) :
    t.acts? (xs ++ ys) = (t.acts? xs).bind fun u => u.acts? ys := by
  induction xs generalizing t with
  | nil => rfl
  | cons x xs ih =>
    simp only [List.cons_append, acts?]
    cases t.act? x with
    | none => rfl
    | some u => exact ih u

theorem Leads.refl (t : Tenancy) : t.Leads t := ⟨[], rfl⟩

theorem Leads.of_act {x : SlotAct} (h : t.act? x = some u) : t.Leads u :=
  ⟨[x], by rw [acts?, h]; rfl⟩

theorem Leads.trans (h : t.Leads u) (k : u.Leads v) : t.Leads v := by
  obtain ⟨xs, hx⟩ := h
  obtain ⟨ys, hy⟩ := k
  exact ⟨xs ++ ys, by rw [acts?_append, hx]; exact hy⟩

namespace Sound

theorem new : Sound {} := ⟨fun _ => ⟨nofun, fun h => absurd h.1.1 nofun⟩, nofun⟩

theorem current_eq_none (h : t.Sound) (ho : t.isOpen = false) : t.slot.current = none := by
  cases hc : t.slot.current with
  | none => rfl
  | some n =>
    have hn := ((h.held n).1 hc).1.1
    rw [ho] at hn
    cases hn

/-- The number of the next attempt was never revoked. -/
theorem begin (h : t.Sound) : Sound ⟨t.slot.register (t.begun + 1), t.begun + 1, true⟩ where
  held n := by
    have hk : t.slot.isRevoked (t.begun + 1) = false :=
      Bool.eq_false_iff.2 fun hr => t.begun.lt_irrefl (h.revoked _ hr)
    refine ⟨fun hn => ?_, fun ⟨⟨_, hn⟩, _⟩ => congrArg some hn.symm⟩
    obtain rfl := Option.some.inj hn
    exact ⟨⟨rfl, rfl⟩, hk⟩
  revoked n hn := Nat.le_succ_of_le (h.revoked n hn)

theorem finish (h : t.Sound) : Sound ⟨t.slot.clear, t.begun, false⟩ where
  held _ := ⟨nofun, fun hn => absurd hn.1.1 nofun⟩
  revoked := h.revoked

theorem cancel (h : t.Sound) : Sound { t with slot := t.slot.cancel } where
  held n := by
    refine ⟨fun hn => absurd (t.slot.current_cancel.symm.trans hn) nofun, fun ⟨ho, hr⟩ => ?_⟩
    have hn : ¬(t.slot.current = some n ∨ t.slot.isRevoked n = true) := by
      rw [← t.slot.isRevoked_cancel_iff, hr]
      nofun
    rw [not_or, Bool.not_eq_true] at hn
    exact absurd ((h.held n).2 ⟨ho, hn.2⟩) hn.1
  revoked n hn := by
    obtain hc | hr := (t.slot.isRevoked_cancel_iff n).1 hn
    · exact Nat.le_of_eq ((h.held n).1 hc).1.2
    · exact h.revoked n hr

theorem act {x : SlotAct} (h : t.Sound) (hx : t.act? x = some u) : u.Sound := by
  cases x with
  | begin =>
    obtain ⟨-, hx⟩ := Option.ite_none_left_eq_some.1 hx
    exact Option.some.inj hx ▸ h.begin
  | finish =>
    obtain ⟨-, hx⟩ := Option.ite_none_right_eq_some.1 hx
    exact Option.some.inj hx ▸ h.finish
  | cancel => exact Option.some.inj hx ▸ h.cancel

theorem leads (h : t.Sound) (hl : t.Leads u) : u.Sound := by
  obtain ⟨xs, hx⟩ := hl
  induction xs generalizing t with
  | nil => exact Option.some.inj hx ▸ h
  | cons x xs ih =>
    obtain ⟨v, hv, hx⟩ := Option.bind_eq_some_iff.1 hx
    exact ih (h.act hv) hx

end Sound
end Tenancy
end PartitionConsumer
