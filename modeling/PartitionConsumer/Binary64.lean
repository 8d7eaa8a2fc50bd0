/-!
Binary floating-point numbers of 53 significant bits, computed exactly: each operation is the
exact rational result, rounded to the nearest representable number, ties to even.
Magnitudes are `mantissa * 2 ^ exponent`, in natural numbers throughout.
-/
namespace PartitionConsumer

/-- A datum of the format. The sign of a zero is kept; a value that is no number has no sign. -/
inductive Binary64 where
  | undefined
  | infinite (negative : Bool)
  | finite (negative : Bool) (mantissa : Nat) (exponent : Int)
  deriving DecidableEq, Repr, Inhabited

/-- A quotient rounded to the nearest natural number, a half to the even neighbour. -/
def roundHalfEven (num den : Nat) : Nat :=
  let q := num / den
  let r := num % den
  if 2 * r < den then q
  else if den < 2 * r then q + 1
  else if q % 2 = 0 then q else q + 1

/-- Rounding to nearest is exact on multiples of the denominator. -/
@[simp] theorem roundHalfEven_mul (n den : Nat) (h : 0 < den) : roundHalfEven (n * den) den = n := by
  simp [roundHalfEven, Nat.mul_div_cancel _ h, h]

/-- A quotient never rounds below its floor nor above the next number. -/
theorem roundHalfEven_bounds (num den : Nat) :
    num / den ≤ roundHalfEven num den ∧ roundHalfEven num den ≤ num / den + 1 := by
  simp only [roundHalfEven]
  split
  · omega
  · split
    · omega
    · split <;> omega

/-- The exponent of the greatest power of two that is at most `num / den`, both positive. -/
def floorLog2 (num den : Nat) : Int :=
  let k : Int := (num.log2 : Int) - den.log2
  if num <<< (-k).toNat < den <<< k.toNat then k - 1 else k

namespace Binary64

def minExponent : Int := -1074

def maxExponent : Int := 971

def zero : Binary64 := .finite false 0 minExponent

def one : Binary64 := .finite false (1 <<< 52) (-52)

/-- A mantissa of at most 53 bits and one bit of carry, put into range. -/
def normal (negative : Bool) (mantissa : Nat) (exponent : Int) : Binary64 :=
  let carried := mantissa == 1 <<< 53
  let m := if carried then 1 <<< 52 else mantissa
  let e := if carried then exponent + 1 else exponent
  if maxExponent < e then .infinite negative else .finite negative m e

/-- The number nearest to `num / den`, for a positive `den`. -/
def nearest (negative : Bool) (num den : Nat) : Binary64 :=
  if num = 0 then .finite negative 0 minExponent
  else
    let e := max (floorLog2 num den - 52) minExponent
    normal negative (roundHalfEven (num <<< (-e).toNat) (den <<< e.toNat)) e

def ofNat (n : Nat) : Binary64 := nearest false n 1

def numerator (mantissa : Nat) (exponent : Int) : Nat := mantissa <<< exponent.toNat

def denominator (exponent : Int) : Nat := 1 <<< (-exponent).toNat

/-- The sum of two numbers that are not negative. -/
def addMagnitude : Binary64 → Binary64 → Binary64
  | .finite _ m e, .finite _ n f =>
    nearest false (numerator m e * denominator f + numerator n f * denominator e)
      (denominator e * denominator f)
  | .undefined, _ | _, .undefined => .undefined
  | _, _ => .infinite false

/-- Sign and magnitude multiply apart; zero times infinity is undefined. -/
def mul : Binary64 → Binary64 → Binary64
  | .undefined, _ | _, .undefined => .undefined
  | .infinite s, .infinite t => .infinite (s != t)
  | .infinite s, .finite t m _ | .finite t m _, .infinite s =>
    if m = 0 then .undefined else .infinite (s != t)
  | .finite s m e, .finite t n f =>
    nearest (s != t) (numerator m e * numerator n f) (denominator e * denominator f)

def isNegative : Binary64 → Bool
  | .undefined => false
  | .infinite s => s
  | .finite s m _ => s && m != 0

def isFinite : Binary64 → Bool
  | .finite .. => true
  | _ => false

def exceeds : Binary64 → Binary64 → Bool
  | .finite _ m e, .finite _ n f =>
    decide (numerator n f * denominator e < numerator m e * denominator f)
  | _, _ => false

/-- Powers by squaring: the bits of the exponent from the lowest up, each product rounded. The fuel
is the number of bits. -/
def powLoop : Nat → Binary64 → Binary64 → Nat → Binary64
  | 0, r, _, _ => r
  | fuel + 1, r, x, n =>
    let r := if n % 2 = 1 then mul r x else r
    if n / 2 = 0 then r else powLoop fuel r (mul x x) (n / 2)

def pow (x : Binary64) (n : Nat) : Binary64 := powLoop (n.log2 + 1) one x n

def ofBits (bits : UInt64) : Binary64 :=
  let n := bits.toNat
  let negative := n >>> 63 % 2 == 1
  let field : Nat := n >>> 52 % 2048
  let fraction : Nat := n % (1 <<< 52)
  if field = 2047 then
    if fraction = 0 then .infinite negative else .undefined
  else if field = 0 then .finite negative fraction minExponent
  else .finite negative (1 <<< 52 + fraction) ((field : Int) - 1075)

theorem mul_undefined_left (x : Binary64) : mul .undefined x = .undefined := by
  cases x <;> rfl

theorem pow_zero (x : Binary64) : x.pow 0 = one := rfl

end Binary64
end PartitionConsumer
