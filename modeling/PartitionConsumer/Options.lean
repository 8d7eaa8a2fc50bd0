import PartitionConsumer.Backoff
import PartitionConsumer.Failure
/-!
Settings of a pump, and the combinations it cannot run with.
-/
namespace PartitionConsumer

structure Options where
  prefetchCount : Nat := 300
  receiveTimeout : Span := .ofSeconds 60
  metricsEnabled : Bool := false
  maxBatchSize : Nat := 10
  invokeOnEmpty : Bool := false
  retry : Backoff := {}
  attemptTimeout : Span := .zero
  cancelGrace : Span := .ofSeconds 5
  feedCapacity : Nat := 1024
  deriving DecidableEq, Repr, Inhabited

namespace Options

/-- The time one connection attempt may take; a setting of zero sets no limit. -/
def attemptLimit (o : Options) : Option Span :=
  if o.attemptTimeout.isZero then none else some o.attemptTimeout

/-- The tick by which an attempt that begins now has to be done, if its time is limited at all; nothing
if the clock cannot hold that tick. -/
def attemptDeadline? (o : Options) (now : Nat) : Option (Option Nat) :=
  match o.attemptLimit with
  | none => some none
  | some limit => (deadline? now limit).map some

def clampedFeedCapacity (o : Options) : Nat := max o.feedCapacity 1

def withEmptyBatches (o : Options) (invokeOnEmpty : Bool) : Options := { o with invokeOnEmpty }

def withMetrics (o : Options) (metricsEnabled : Bool) : Options := { o with metricsEnabled }

def withRetry (o : Options) (retry : Backoff) : Options := { o with retry }

def validate (o : Options) : Except ConfigError Unit :=
  if o.maxBatchSize = 0 then .error .zeroBatchSize
  else if o.prefetchCount < o.maxBatchSize then
    .error (.prefetchBelowBatch o.prefetchCount o.maxBatchSize)
  else if o.retry.maxAttempts = 0 then .error .zeroAttempts
  else if o.receiveTimeout.isZero then .error (.zeroReceiveTimeout o.receiveTimeout)
  else .ok ()

/-- Valid options ask for at least one message a batch, enough prefetch to fill one, and at least one
attempt. -/
theorem validate_ok_iff (o : Options) : o.validate = .ok () ↔
    0 < o.maxBatchSize ∧ o.maxBatchSize ≤ o.prefetchCount ∧ 0 < o.retry.maxAttempts
      ∧ o.receiveTimeout.isZero = false := by
  unfold validate
  repeat' split
  all_goals simp_all
  all_goals omega

end Options
end PartitionConsumer
