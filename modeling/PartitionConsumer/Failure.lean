import PartitionConsumer.Time
/-!
Failures as causes. Each has a short label and one function for its wording; `sources` lists the
wordings of the failures behind it.
-/
namespace PartitionConsumer

inductive TransportFault where
  | epochFenced
  | timeout
  | unauthorized
  | connection
  | other
  deriving DecidableEq, Repr, Inhabited

def TransportFault.label : TransportFault → String
  | .epochFenced => "epoch_fenced"
  | .timeout => "timeout"
  | .unauthorized => "unauthorized"
  | .connection => "connection"
  | .other => "other"

structure TransportError where
  fault : TransportFault
  detail : String
  deriving DecidableEq, Repr, Inhabited

namespace TransportError

def message (e : TransportError) : String := e.fault.label ++ ": " ++ e.detail

def label (e : TransportError) : String := e.fault.label

/-- Whether a higher epoch holds the partition. Only the kind of fault counts, never its wording. -/
def isFenced (e : TransportError) : Bool := e.fault == .epochFenced

def attemptTimedOut : TransportError := ⟨.timeout, "open attempt timed out"⟩

end TransportError

structure ProcessorError where
  message : String
  deriving DecidableEq, Repr, Inhabited

inductive OpenError where
  | fenced (epoch : Nat) (source : TransportError)
  | invalidCursor (reason : String)
  | retriesExhausted (attempts : Nat) (last : TransportError)
  | cancelled
  deriving DecidableEq, Repr, Inhabited

namespace OpenError

def message : OpenError → String
  | .fenced epoch source =>
    "receiver rejected at epoch " ++ toString epoch ++ " (fencing conflict): " ++ source.message
  | .invalidCursor reason => "invalid starting cursor: " ++ reason
  | .retriesExhausted attempts last =>
    "open failed after " ++ toString attempts ++ " attempts: " ++ last.message
  | .cancelled => "open cancelled"

def label : OpenError → String
  | .fenced .. => "open_fenced"
  | .invalidCursor _ => "open_invalid_cursor"
  | .retriesExhausted .. => "open_retries_exhausted"
  | .cancelled => "open_cancelled"

def isFatal : OpenError → Bool
  | .fenced .. | .invalidCursor _ => true
  | _ => false

def sources : OpenError → List String
  | .fenced _ source => [source.message]
  | _ => []

end OpenError

inductive PumpError where
  | onOpen (error : ProcessorError)
  | opening (error : OpenError)
  | delivery (error : TransportError)
  | processor (error : ProcessorError)
  deriving DecidableEq, Repr, Inhabited

namespace PumpError

def message : PumpError → String
  | .onOpen e => "on_open failed: " ++ e.message
  | .opening e => e.message
  | .delivery e => "delivery error: " ++ e.message
  | .processor e => "on_events failed: " ++ e.message

def label : PumpError → String
  | .onOpen _ => "pump_on_open"
  | .opening e => e.label
  | .delivery _ => "pump_delivery"
  | .processor _ => "pump_processor"

/-- A failed open stands for itself, so its sources are its own. -/
def sources : PumpError → List String
  | .opening e => e.sources
  | _ => []

end PumpError

inductive ConfigError where
  | zeroBatchSize
  | prefetchBelowBatch (prefetch batch : Nat)
  | zeroAttempts
  | zeroReceiveTimeout (timeout : Span)
  | noExecutor
  deriving DecidableEq, Repr, Inhabited

namespace ConfigError

def message : ConfigError → String
  | .zeroBatchSize => "max_batch_size must be > 0"
  | .prefetchBelowBatch prefetch batch =>
    "prefetch_count " ++ toString prefetch ++ " is lower than max_batch_size " ++ toString batch
  | .zeroAttempts => "open_retry.max_attempts must be > 0"
  | .zeroReceiveTimeout d => "receive_timeout must be > 0, got " ++ d.text
  | .noExecutor => "no executor configured and no tokio runtime available"

def label : ConfigError → String
  | .zeroBatchSize => "config_zero_batch_size"
  | .prefetchBelowBatch .. => "config_prefetch_below_batch"
  | .zeroAttempts => "config_zero_attempts"
  | .zeroReceiveTimeout _ => "config_zero_receive_timeout"
  | .noExecutor => "config_no_executor"

end ConfigError

structure RenewalError where
  detail : String
  deriving DecidableEq, Repr, Inhabited

def RenewalError.message (e : RenewalError) : String := "token renewal failed: " ++ e.detail

end PartitionConsumer
