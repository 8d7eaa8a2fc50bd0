import PartitionConsumer.Time
import PartitionConsumer.Binary64
/-!
How often a connection attempt is repeated, and how long to wait in between.
-/
namespace PartitionConsumer

/-- Bounds and pacing of connection attempts. The growth factor is kept as its bit pattern. -/
structure Backoff where
  maxAttempts : Nat := 5
  first : Span := .zero
  max : Span := .ofSeconds 10
  factor : UInt64 := 4611686018427387904
  jitter : Bool := false
  deriving DecidableEq, Repr, Inhabited

inductive WaitError where
  | tooLong
  deriving DecidableEq, Repr

def WaitError.message : WaitError → String
  | .tooLong => "cannot convert float seconds to Duration: value is either too big or NaN"

namespace Span

/-- The span in seconds: its whole seconds and its fraction, each rounded, then their rounded sum. -/
def toBinary64 (d : Span) : Binary64 :=
  .addMagnitude (.ofNat d.seconds) (.nearest false d.subsecond nanosPerSecond)

/-- Seconds to the nearest nanosecond, a half to the even one. -/
def ofBinary64 : Binary64 → Except WaitError Span
  | .finite _ m e =>
    let nanos := roundHalfEven (Binary64.numerator m e * nanosPerSecond) (Binary64.denominator e)
    if nanos < bound then .ok ⟨nanos⟩ else .error .tooLong
  | _ => .error .tooLong

end Span

namespace Backoff

def allows (b : Backoff) (attempts : Nat) : Bool := attempts < b.maxAttempts

def maxPower : Nat := 1 <<< 31 - 1

/-- The wait after the given failed attempt before it is spread: `first * factor ^ (attempt - 1)`
seconds, or `max` if that is no finite number from zero up to `max`. -/
def base (b : Backoff) (failedAttempt : Nat) : Except WaitError Span :=
  if b.first.isZero then .ok .zero
  else
    let power := min (failedAttempt - 1) maxPower
    let secs := b.first.toBinary64.mul ((Binary64.ofBits b.factor).pow power)
    if !secs.isFinite || secs.isNegative || secs.exceeds b.max.toBinary64 then .ok b.max
    else Span.ofBinary64 secs

def jitterRange (d : Span) : Nat := d.millis % (1 <<< 64) / 2

/-- A wait spread over its upper half: half its milliseconds and a draw of at most as many. A wait
of less than two milliseconds stays. -/
def spread (d : Span) (draw : Nat) : Span :=
  let half := jitterRange d
  if half = 0 then d else .ofMillis (half + draw % (half + 1))

/-- The wait after the given failed attempt, for one draw of the random source. -/
def delay (b : Backoff) (failedAttempt draw : Nat) : Except WaitError Span :=
  (b.base failedAttempt).map fun d => if b.jitter then spread d draw else d

/-- Whether the least and the greatest spread wait are whole milliseconds from half the base up to
the base. -/
def jitterWithinBounds (b : Backoff) (failedAttempt : Nat) : Except WaitError Bool :=
  (b.base failedAttempt).map fun d =>
    [0, jitterRange d].all fun draw =>
      let w := if b.jitter then spread d draw else d
      w.nanos % nanosPerTick == 0 && d.millis / 2 ≤ w.millis && w.millis ≤ d.millis

@[simp] theorem delay_of_first_zero (b : Backoff) (n draw : Nat) (h : b.first.isZero = true) :
    b.delay n draw = .ok .zero := by
  simp [delay, base, h, Except.map, spread, jitterRange, Span.millis, Span.zero]

end Backoff
end PartitionConsumer
