import PartitionConsumer.Proofs.Session.Turns
/-!
# What a pump keeps

A pump has the options it was built with, whatever happens to it and its calls, and only a delivery
changes anything of what it knows of its partition. Calls may be dropped at any time.
-/
namespace PartitionConsumer

namespace Cause

def isDelivery : Cause → Bool
  | .deliver .. => true
  | _ => false

end Cause

namespace Pump

variable {p q : Pump}

theorem Kept.leave (h : Kept p q) (nx : Next) : Kept p (nx.leave q) := by
  cases nx <;> exact { h with }

theorem kept_abandon (p : Pump) (c : Call) : Kept p (p.abandon c) := by
  cases c <;> exact ⟨rfl, rfl, rfl⟩

end Pump

namespace Next

@[simp] theorem options_leave (nx : Next) (p : Pump) : (nx.leave p).options = p.options := by
  cases nx <;> rfl

@[simp] theorem partition_leave (nx : Next) (p : Pump) : (nx.leave p).partition = p.partition := by
  cases nx <;> rfl

end Next

namespace Session

variable {s t : Session} {c : Cause}

theorem Step.kept (h : s.Step c t) (hc : c.isDelivery = false) : s.pump.Kept t.pump := by
  cases h with
  | start hm => exact hm.keeps.leave _
  | shutdown reason hm => exact hm.keeps.leave _
  | deliver => cases hc
  | fail e hm => exact hm.keeps.toKept
  | tellStart id w a stage ht hw hm => exact hm.keeps.leave _
  | tellShutdown id w a ticket reason stage ht hw hm => exact hm.keeps.leave _
  | tellDelivery => exact Pump.Kept.leave ⟨rfl, rfl, rfl⟩ _
  | tellReport id w outcome ticket ht hw hm => exact hm.keeps.leave _
  | drop id w hw => exact s.pump.kept_abandon w.call
  | _ => exact ⟨rfl, rfl, rfl⟩

theorem Step.options (h : s.Step c t) : t.pump.options = s.pump.options := by
  cases c with
  | deliver report batch =>
    obtain ⟨q, es, nx, hm, rfl⟩ := h.of_deliver
    exact (Next.options_leave ..).trans hm.options
  | _ => exact (h.kept rfl).options

/-- A pump is of the same partition throughout. -/
theorem Step.partition (h : s.Step c t) : t.pump.partition = s.pump.partition := by
  cases c with
  | deliver report batch =>
    obtain ⟨q, es, nx, hm, rfl⟩ := h.of_deliver
    exact (Next.partition_leave ..).trans hm.partition
  | _ => exact congrArg Context.partition (h.kept rfl).context

end Session
end PartitionConsumer
