import PartitionConsumer.Pump.Basic
import PartitionConsumer.Text.Quoted
/-!
A renewal schedule: a timer that fires, runs an action and is armed again when the action is done. It
ends when a firing finds its owner closed, or when it is cancelled.
-/
namespace PartitionConsumer

structure Renewal where
  client : String
  interval : Span
  /-- A timer is armed. -/
  pending : Bool := false
  cancelled : Bool := false
  trace : List Effect := []
  deriving Inhabited

namespace Renewal

def tell (r : Renewal) (e : Effect) : Renewal := { r with trace := r.trace ++ [e] }

def log (r : Renewal) (level : LogLevel) (message : String) (fields : List (String × LogValue)) :
    Renewal :=
  r.tell (.log { level, message, fields := ("client", .text r.client) :: fields })

def publish (r : Renewal) (kind : EventKind) (reason : Option String) : Renewal :=
  r.tell (.publish { kind, partition := r.client, reason })

/-- Arms the timer, unless the schedule was cancelled. -/
def arm (r : Renewal) : Renewal := if r.cancelled then r else { r with pending := true }

def start (client : String) (interval : Span) : Renewal :=
  ({ client, interval : Renewal }.log .debug "renewal scheduled"
    [("interval", .text interval.text)]).arm

/-- No timer is pending any more, and none will be armed. An action under way goes on. -/
def cancel (r : Renewal) : Renewal := { r with cancelled := true, pending := false }

/-- The timer has fired. Says whether the action is to run: not if the schedule was cancelled or the
owner is closing, and the latter ends it. The owner is asked for its name and whether it is closing inside this
one step, after the look at the schedule; it is taken not to cancel the schedule when it is asked. -/
def fire (r : Renewal) (ownerClosing : Bool) : Renewal × Bool :=
  let r := { r with pending := false }
  if r.cancelled then (r, false)
  else if ownerClosing then
    ((r.log .info "client closing or closed, stopping token renewal" []).publish .renewalStopped
      "owner closed", false)
  else (r, true)

/-- The action is done. A failure is reported, and the schedule goes on all the same. -/
def complete (r : Renewal) (outcome : Except RenewalError Unit) : Renewal :=
  match outcome with
  | .ok () => (r.publish .renewalFired none).arm
  | .error e =>
    ((r.log .warn "token renewal failed, will retry at next interval"
      [("error", .text e.message)]).publish .renewalFired e.message).arm

def text (r : Renewal) : String :=
  "RenewalScheduler \x7b client: " ++ quoted r.client ++ ", interval: " ++ r.interval.text
    ++ ", pending: " ++ toString r.pending ++ " \x7d"

@[simp] theorem pending_cancel (r : Renewal) : r.cancel.pending = false := rfl
@[simp] theorem cancelled_cancel (r : Renewal) : r.cancel.cancelled = true := rfl

/-- A cancelled schedule stays without a timer. -/
theorem arm_of_cancelled {r : Renewal} (h : r.cancelled = true) : r.arm = r := by simp [arm, h]

@[simp] theorem cancelled_arm (r : Renewal) : r.arm.cancelled = r.cancelled := by
  unfold arm
  split <;> rfl

@[simp] theorem pending_arm (r : Renewal) : r.arm.pending = (!r.cancelled || r.pending) := by
  unfold arm
  split <;> simp_all

/-- A new schedule has its first timer armed. -/
@[simp] theorem pending_start (client : String) (interval : Span) :
    (start client interval).pending = true := rfl

@[simp] theorem cancelled_start (client : String) (interval : Span) :
    (start client interval).cancelled = false := rfl

/-- The timer that fires is no longer armed. -/
@[simp] theorem pending_fire (r : Renewal) (ownerClosing : Bool) :
    (r.fire ownerClosing).1.pending = false := by
  unfold fire
  cases r.cancelled <;> cases ownerClosing <;> rfl

@[simp] theorem cancelled_fire (r : Renewal) (ownerClosing : Bool) :
    (r.fire ownerClosing).1.cancelled = r.cancelled := by
  unfold fire
  cases r.cancelled <;> cases ownerClosing <;> simp [publish, log, tell]

/-- The action runs exactly if the schedule was not cancelled and its owner is open. -/
@[simp] theorem runs_fire (r : Renewal) (ownerClosing : Bool) :
    (r.fire ownerClosing).2 = (!r.cancelled && !ownerClosing) := by
  unfold fire
  cases r.cancelled <;> cases ownerClosing <;> simp

@[simp] theorem cancelled_complete (r : Renewal) (outcome : Except RenewalError Unit) :
    (r.complete outcome).cancelled = r.cancelled := by
  cases outcome <;> simp [complete, publish, log, tell]

/-- Whatever the action came to, the next timer is armed, unless the schedule was cancelled. -/
@[simp] theorem pending_complete (r : Renewal) (outcome : Except RenewalError Unit) :
    (r.complete outcome).pending = (!r.cancelled || r.pending) := by
  cases outcome <;> simp [complete, publish, log, tell]

end Renewal
end PartitionConsumer
