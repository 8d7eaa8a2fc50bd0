/-!
Spans of time, points of wall-clock time and the clock that timers run on.
A span is a whole number of nanoseconds; the clock ticks in whole milliseconds, so a timer set for
a fraction of a tick fires at the next one.
-/
namespace PartitionConsumer

def nanosPerSecond : Nat := 1000000000

/-- Nanoseconds in a millisecond, the tick of the clock. -/
def nanosPerTick : Nat := 1000000

structure Span where
  nanos : Nat
  deriving DecidableEq, Repr, Inhabited

namespace Span

def zero : Span := ⟨0⟩

def ofMillis (n : Nat) : Span := ⟨n * nanosPerTick⟩

def ofSeconds (n : Nat) : Span := ⟨n * nanosPerSecond⟩

def ofParts (seconds nanos : Nat) : Span := ⟨seconds * nanosPerSecond + nanos⟩

def seconds (d : Span) : Nat := d.nanos / nanosPerSecond

def subsecond (d : Span) : Nat := d.nanos % nanosPerSecond

def millis (d : Span) : Nat := d.nanos / nanosPerTick

/-- Ticks of the clock that cover the span. -/
def ticks (d : Span) : Nat := (d.nanos + (nanosPerTick - 1)) / nanosPerTick

def isZero (d : Span) : Bool := d.nanos == 0

/-- Spans have at most 2^64 - 1 whole seconds. -/
def bound : Nat := (1 <<< 64) * nanosPerSecond

theorem parts (d : Span) : ofParts d.seconds d.subsecond = d := by
  cases d
  simp [ofParts, seconds, subsecond, Nat.div_add_mod']

theorem subsecond_lt (d : Span) : d.subsecond < nanosPerSecond :=
  Nat.mod_lt _ (by decide)

@[simp] theorem ticks_ofMillis (n : Nat) : (ofMillis n).ticks = n := by
  simp only [ticks, ofMillis, nanosPerTick]
  omega

end Span

/-- Decimal digits of `n`, padded on the left to `width`, with the zeros at the end taken off. -/
def fractionDigits (width n : Nat) : String :=
  let digits := toString n
  let padded := "".pushn '0' (width - digits.length) ++ digits
  String.ofList (padded.toList.reverse.dropWhile (· == '0')).reverse

/-- A number of `unit`s with its fraction, if there is one. -/
def withFraction (nanos unit width : Nat) (symbol : String) : String :=
  let fraction := fractionDigits width (nanos % unit)
  let point := if nanos % unit = 0 then "" else "." ++ fraction
  toString (nanos / unit) ++ point ++ symbol

/-- The text of a span: the largest of the units s, ms, µs and ns that leaves an integer part
above zero, then the fraction without zeros at its end. -/
def Span.text (d : Span) : String :=
  if nanosPerSecond ≤ d.nanos then withFraction d.nanos nanosPerSecond 9 "s"
  else if nanosPerTick ≤ d.nanos then withFraction d.nanos nanosPerTick 6 "ms"
  else if 1000 ≤ d.nanos then withFraction d.nanos 1000 3 "µs"
  else toString d.nanos ++ "ns"

/-- A point of wall-clock time, in nanoseconds since the start of 1970. -/
structure Stamp where
  nanos : Int
  deriving DecidableEq, Repr, Inhabited

namespace Stamp

def ofParts (seconds : Int) (nanos : Nat) : Stamp := ⟨seconds * nanosPerSecond + nanos⟩

/-- Whole seconds, rounded down. -/
def seconds (t : Stamp) : Int := Int.fdiv t.nanos nanosPerSecond

/-- Nanoseconds after the whole second, never negative. -/
def subsecond (t : Stamp) : Int := Int.fmod t.nanos nanosPerSecond

def text (t : Stamp) : String :=
  "SystemTime \x7b tv_sec: " ++ toString t.seconds ++ ", tv_nsec: " ++ toString t.subsecond ++ " \x7d"

end Stamp

/-- The clock counts ticks from the start of a run; it cannot hold times of 2^63 seconds or more. -/
def clockBound : Nat := (1 <<< 63) * nanosPerSecond

/-- The wait that replaces one beyond the end of the clock: thirty years. -/
def farFuture : Span := .ofSeconds (86400 * 365 * 30)

/-- The tick a deadline falls on, or nothing if the clock cannot hold it. -/
def deadline? (now : Nat) (d : Span) : Option Nat :=
  if now * nanosPerTick + d.nanos < clockBound then some (now + d.ticks) else none

def wakeTime (now : Nat) (d : Span) : Nat :=
  (deadline? now d).getD (now + farFuture.ticks)

theorem le_of_deadline? {now tick : Nat} {d : Span} (h : deadline? now d = some tick) :
    now ≤ tick := by
  unfold deadline? at h
  split at h
  · cases h
    exact Nat.le_add_right now d.ticks
  · cases h

theorem le_wakeTime (now : Nat) (d : Span) : now ≤ wakeTime now d := by
  unfold wakeTime
  cases h : deadline? now d with
  | none => exact Nat.le_add_right ..
  | some tick => exact le_of_deadline? h

/-- A timer for a whole number of ticks fires on the very tick, if the clock can hold it. -/
theorem wakeTime_ofMillis {now n : Nat} (h : (deadline? now (.ofMillis n)).isSome = true) :
    wakeTime now (.ofMillis n) = now + n := by
  unfold wakeTime deadline? at *
  split at h
  · rename_i hlt
    rw [if_pos hlt, Span.ticks_ofMillis]
    rfl
  · cases h

end PartitionConsumer
