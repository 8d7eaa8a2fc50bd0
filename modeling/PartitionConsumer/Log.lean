/-!
Log records: a level, a message and named fields.
-/
namespace PartitionConsumer

inductive LogLevel where
  | error
  | warn
  | info
  | debug
  deriving DecidableEq, Repr, Inhabited

def LogLevel.label : LogLevel → String
  | .error => "ERROR"
  | .warn => "WARN"
  | .info => "INFO"
  | .debug => "DEBUG"

inductive LogValue where
  | text (s : String)
  | number (n : Nat)
  deriving DecidableEq, Repr, Inhabited

structure LogRecord where
  level : LogLevel
  message : String
  fields : List (String × LogValue) := []
  deriving DecidableEq, Repr, Inhabited

def optionalText : Option Nat → String
  | none => "None"
  | some n => "Some(" ++ toString n ++ ")"

end PartitionConsumer
