import PartitionConsumer.Backoff
import Mathlib.Algebra.Order.Field.Power
import Mathlib.Data.Rat.Cast.Order
import Mathlib.Tactic.FieldSimp
import Mathlib.Tactic.Linarith
import Mathlib.Tactic.Positivity
import Mathlib.Tactic.Ring
/-!
# Rounding

How far the rounded results of binary numbers are from the exact ones, as rational numbers. A number that the
format holds is not changed by rounding.
-/
namespace PartitionConsumer

/-! ## Quotients -/

section Quotients

variable {num den num' den' k : Nat}

/-- A quotient rounds to `k` at most if it lies below the middle of `k` and `k + 1`, or on it if `k` is even. -/
theorem roundHalfEven_le_iff (hd : 0 < den) : roundHalfEven num den ≤ k
    ↔ 2 * num < (2 * k + 1) * den ∨ 2 * num = (2 * k + 1) * den ∧ k % 2 = 0 := by
  have hdiv : den * (num / den) + num % den = num := Nat.div_add_mod num den
  have hmod : num % den < den := Nat.mod_lt _ hd
  have hexpand : (2 * k + 1) * den = 2 * (den * k) + den := by ring
  obtain ⟨hlo, hhi⟩ := roundHalfEven_bounds num den
  obtain hk | hk | hk := Nat.lt_trichotomy k (num / den)
  · have hmul : den * (k + 1) ≤ den * (num / den) := Nat.mul_le_mul_left _ hk
    rw [Nat.mul_add] at hmul
    constructor <;> intro h <;> omega
  · subst hk
    rw [hexpand]
    unfold roundHalfEven
    dsimp only
    split
    · omega
    · split
      · omega
      · split <;> omega
  · have hmul : den * (num / den + 1) ≤ den * k := Nat.mul_le_mul_left _ hk
    rw [Nat.mul_add] at hmul
    constructor <;> intro h <;> omega

/-- A greater quotient does not round to less. -/
theorem roundHalfEven_mono (hd : 0 < den) (hd' : 0 < den') (h : num * den' ≤ num' * den) :
    roundHalfEven num den ≤ roundHalfEven num' den' := by
  have hk := (roundHalfEven_le_iff hd').1 (Nat.le_refl (roundHalfEven num' den'))
  generalize roundHalfEven num' den' = k at hk ⊢
  refine (roundHalfEven_le_iff hd).2 ?_
  have hswap : (2 * k + 1) * den * den' = (2 * k + 1) * den' * den := by ring
  obtain hlt | ⟨heq, heven⟩ := hk
  · refine .inl (Nat.lt_of_mul_lt_mul_right (a := den') ?_)
    calc 2 * num * den' = 2 * (num * den') := by ring
      _ ≤ 2 * (num' * den) := Nat.mul_le_mul_left 2 h
      _ = 2 * num' * den := by ring
      _ < (2 * k + 1) * den' * den := Nat.mul_lt_mul_of_pos_right hlt hd
      _ = (2 * k + 1) * den * den' := hswap.symm
  · have hle : 2 * num ≤ (2 * k + 1) * den := by
      refine Nat.le_of_mul_le_mul_right (c := den') ?_ hd'
      calc 2 * num * den' = 2 * (num * den') := by ring
        _ ≤ 2 * (num' * den) := Nat.mul_le_mul_left 2 h
        _ = 2 * num' * den := by ring
        _ = (2 * k + 1) * den' * den := by rw [heq]
        _ = (2 * k + 1) * den * den' := hswap.symm
    exact (Nat.lt_or_eq_of_le hle).imp_right fun he => ⟨he, heven⟩

theorem roundHalfEven_congr (hd : 0 < den) (hd' : 0 < den') (h : num * den' = num' * den) :
    roundHalfEven num den = roundHalfEven num' den' :=
  Nat.le_antisymm (roundHalfEven_mono hd hd' h.le) (roundHalfEven_mono hd' hd h.ge)

/-- A number that is at most the quotient is at most what it rounds to. -/
theorem le_roundHalfEven (hd : 0 < den) (h : (k : ℚ) ≤ num / den) : k ≤ roundHalfEven num den := by
  have hk : k * den ≤ num := by exact_mod_cast (le_div_iff₀ (Nat.cast_pos.2 hd : (0 : ℚ) < den)).1 h
  calc k = roundHalfEven (k * 1) 1 := (roundHalfEven_mul k 1 Nat.one_pos).symm
    _ ≤ roundHalfEven num den := roundHalfEven_mono Nat.one_pos hd (by rw [Nat.mul_one, Nat.mul_one]; exact hk)

/-- A number that is at least the quotient is at least what it rounds to. -/
theorem roundHalfEven_le (hd : 0 < den) (h : (num / den : ℚ) ≤ k) : roundHalfEven num den ≤ k := by
  have hk : num ≤ k * den := by exact_mod_cast (div_le_iff₀ (Nat.cast_pos.2 hd : (0 : ℚ) < den)).1 h
  calc roundHalfEven num den
      ≤ roundHalfEven (k * 1) 1 :=
        roundHalfEven_mono hd Nat.one_pos (by rw [Nat.mul_one, Nat.mul_one]; exact hk)
    _ = k := roundHalfEven_mul k 1 Nat.one_pos

/-- A quotient less than a half away from a number rounds to it. -/
theorem roundHalfEven_eq_of_near (hd : 0 < den) (h : |(num / den : ℚ) - k| < 1 / 2) :
    roundHalfEven num den = k := by
  have hd' : (0 : ℚ) < den := Nat.cast_pos.2 hd
  obtain ⟨hlo, hhi⟩ := abs_lt.1 h
  have hup : 2 * num < (2 * k + 1) * den := by
    have : (num : ℚ) < (k + 1 / 2) * den := (div_lt_iff₀ hd').1 (by linarith)
    exact_mod_cast (by linarith : (2 : ℚ) * num < (2 * k + 1) * den)
  have hdown : 2 * k * den < 2 * num + den := by
    have : (k - 1 / 2) * den < (num : ℚ) := (lt_div_iff₀ hd').1 (by linarith)
    exact_mod_cast (by linarith : (2 : ℚ) * k * den < 2 * num + den)
  refine Nat.le_antisymm ((roundHalfEven_le_iff hd).2 (.inl hup)) (Nat.le_of_not_lt fun hlt => ?_)
  cases k with
  | zero => cases hlt
  | succ k =>
    have hr := (roundHalfEven_le_iff hd).1 (Nat.le_of_lt_succ hlt)
    have he : 2 * (k + 1) * den = (2 * k + 1) * den + den := by ring
    omega

/-- Rounding changes a quotient by a half at most. -/
theorem abs_roundHalfEven_sub_le (num : Nat) (hd : 0 < den) :
    |(roundHalfEven num den : ℚ) - num / den| ≤ 1 / 2 := by
  have hd' : (0 : ℚ) < den := Nat.cast_pos.2 hd
  have hup := (roundHalfEven_le_iff hd).1 (Nat.le_refl (roundHalfEven num den))
  have hdown : 2 * roundHalfEven num den * den ≤ 2 * num + den := by
    cases hk : roundHalfEven num den with
    | zero => omega
    | succ k =>
      refine Nat.le_of_not_lt fun hlt => ?_
      have he : 2 * (k + 1) * den = (2 * k + 1) * den + den := by ring
      have : roundHalfEven num den ≤ k := (roundHalfEven_le_iff hd).2 (.inl (by omega))
      omega
  generalize roundHalfEven num den = k at hup hdown ⊢
  have hup' : 2 * num ≤ (2 * k + 1) * den := by omega
  have h₁ : (2 : ℚ) * num ≤ (2 * k + 1) * den := by exact_mod_cast hup'
  have h₂ : (2 : ℚ) * k * den ≤ 2 * num + den := by exact_mod_cast hdown
  refine abs_le.2 ⟨?_, ?_⟩
  · have : (num / den : ℚ) ≤ k + 1 / 2 := (div_le_iff₀ hd').2 (by linarith)
    linarith
  · have : (k - 1 / 2 : ℚ) ≤ num / den := (le_div_iff₀ hd').2 (by linarith)
    linarith

end Quotients

/-! ## Powers of two -/

/-- A power of two as a quotient of natural numbers. -/
theorem two_zpow_eq_div (k : Int) : (2 : ℚ) ^ k = 2 ^ k.toNat / 2 ^ (-k).toNat := by
  obtain ⟨n, rfl | rfl⟩ := k.eq_nat_or_neg
  · simp
  · simp

/-- The quotient lies between this power of two and the next. -/
theorem floorLog2_spec {num den : Nat} (hn : num ≠ 0) (hd : den ≠ 0) :
    (2 : ℚ) ^ floorLog2 num den ≤ num / den ∧ (num / den : ℚ) < 2 ^ (floorLog2 num den + 1) := by
  have hd' : (0 : ℚ) < den := Nat.cast_pos.2 (Nat.pos_of_ne_zero hd)
  have hnlo : (2 : ℚ) ^ num.log2 ≤ num := by exact_mod_cast Nat.log2_self_le hn
  have hnhi : (num : ℚ) < 2 ^ (num.log2 + 1) := by exact_mod_cast Nat.lt_log2_self
  have hdlo : (2 : ℚ) ^ den.log2 ≤ den := by exact_mod_cast Nat.log2_self_le hd
  have hdhi : (den : ℚ) < 2 ^ (den.log2 + 1) := by exact_mod_cast Nat.lt_log2_self
  have two : (2 : ℚ) ≠ 0 := two_ne_zero
  have hlo : (2 : ℚ) ^ ((num.log2 : Int) - den.log2 - 1) ≤ num / den := by
    rw [le_div_iff₀ hd', zpow_sub₀ two, zpow_sub₀ two, zpow_natCast, zpow_natCast, zpow_one]
    have hle : (den : ℚ) ≤ 2 ^ den.log2 * 2 := by rw [← pow_succ]; exact hdhi.le
    calc (2 : ℚ) ^ num.log2 / 2 ^ den.log2 / 2 * den
        = 2 ^ num.log2 * (den / (2 ^ den.log2 * 2)) := by field_simp
      _ ≤ 2 ^ num.log2 * 1 :=
        mul_le_mul_of_nonneg_left ((div_le_one (by positivity)).2 hle) (by positivity)
      _ ≤ num := by rw [mul_one]; exact hnlo
  have hhi : (num / den : ℚ) < 2 ^ ((num.log2 : Int) - den.log2 + 1) := by
    rw [div_lt_iff₀ hd', zpow_add₀ two, zpow_sub₀ two, zpow_natCast, zpow_natCast, zpow_one]
    calc (num : ℚ) < 2 ^ (num.log2 + 1) := hnhi
      _ = 2 ^ num.log2 * 2 * 1 := by rw [pow_succ, mul_one]
      _ ≤ 2 ^ num.log2 * 2 * (den / 2 ^ den.log2) :=
        mul_le_mul_of_nonneg_left ((one_le_div (by positivity)).2 hdlo) (by positivity)
      _ = 2 ^ num.log2 / 2 ^ den.log2 * 2 * den := by field_simp
  unfold floorLog2
  dsimp only
  generalize (num.log2 : Int) - den.log2 = k at hlo hhi
  have hshift : num <<< (-k).toNat < den <<< k.toNat ↔ (num / den : ℚ) < 2 ^ k := by
    rw [two_zpow_eq_div, div_lt_div_iff₀ hd' (by positivity), Nat.shiftLeft_eq, Nat.shiftLeft_eq,
      mul_comm ((2 : ℚ) ^ k.toNat)]
    exact_mod_cast Iff.rfl
  split
  · rename_i h
    rw [Int.sub_add_cancel]
    exact ⟨hlo, hshift.1 h⟩
  · rename_i h
    exact ⟨not_lt.1 (hshift.not.1 h), hhi⟩

/-- The quotient is below a power of two only if that exceeds its own. -/
theorem floorLog2_lt {num den : Nat} (hn : num ≠ 0) (hd : den ≠ 0) {k : Int}
    (h : (num / den : ℚ) < 2 ^ k) : floorLog2 num den < k :=
  (zpow_lt_zpow_iff_right₀ one_lt_two).1 ((floorLog2_spec hn hd).1.trans_lt h)

namespace Binary64

/-- The value of a finite number without its sign. -/
def magnitude (mantissa : Nat) (exponent : Int) : ℚ := mantissa * 2 ^ exponent

variable {m n num den : Nat} {e f k : Int} {s t : Bool}

theorem magnitude_nonneg (m : Nat) (e : Int) : 0 ≤ magnitude m e := by
  unfold magnitude
  positivity

theorem denominator_pos (e : Int) : 0 < denominator e := by
  rw [denominator, Nat.one_shiftLeft]
  exact Nat.two_pow_pos _

theorem magnitude_eq_div (m : Nat) (e : Int) : magnitude m e = numerator m e / denominator e := by
  rw [magnitude, two_zpow_eq_div, numerator, denominator, Nat.one_shiftLeft, Nat.shiftLeft_eq]
  push_cast
  exact (mul_div_assoc ..).symm

/-- Numbers compare as their quotients do. -/
theorem magnitude_le_iff :
    magnitude m e ≤ magnitude n f ↔ numerator m e * denominator f ≤ numerator n f * denominator e := by
  rw [magnitude_eq_div, magnitude_eq_div, div_le_div_iff₀ (Nat.cast_pos.2 (denominator_pos e))
    (Nat.cast_pos.2 (denominator_pos f))]
  exact_mod_cast Iff.rfl

/-- A smaller exponent makes room for a greater significand. -/
theorem exists_magnitude_eq (m : Nat) (h : f ≤ e) : ∃ j, magnitude m e = magnitude j f := by
  obtain ⟨k, rfl⟩ := Int.le.dest h
  refine ⟨m * 2 ^ k, ?_⟩
  rw [magnitude, magnitude, zpow_add₀ two_ne_zero, zpow_natCast]
  push_cast
  ring

/-! ## The nearest number -/

/-- The distance of neighbours in the format where the quotient lies. -/
def spacing (num den : Nat) : ℚ := 2 ^ max (floorLog2 num den - 52) minExponent

/-- A significand of 54 bits is halved. -/
theorem normal_eq (s : Bool) (m : Nat) (e : Int) : normal s m e =
    if m = 2 ^ 53 then if maxExponent < e + 1 then .infinite s else .finite s (2 ^ 52) (e + 1)
    else if maxExponent < e then .infinite s else .finite s m e := by
  have hcarry : (m == 1 <<< 53) = decide (m = 2 ^ 53) := rfl
  unfold normal
  dsimp only
  rw [hcarry]
  by_cases hc : m = 2 ^ 53
  · rw [decide_eq_true hc, if_pos hc]
    rfl
  · rw [decide_eq_false hc, if_neg hc]
    rfl

theorem magnitude_normal (h : normal s m e = .finite t n f) : magnitude n f = magnitude m e := by
  rw [normal_eq] at h
  split at h
  · split at h
    · cases h
    · rename_i hm _
      cases h
      rw [hm, magnitude, magnitude, zpow_add_one₀ two_ne_zero]
      norm_num
      ring
  · split at h
    · cases h
    · cases h
      rfl

theorem nearest_of_zero (s : Bool) (den : Nat) : nearest s 0 den = .finite s 0 minExponent := if_pos rfl

theorem nearest_of_ne_zero (hn : num ≠ 0) (hd : 0 < den) : ∃ q d : Nat, 0 < d
    ∧ (q / d : ℚ) = num / den / spacing num den
    ∧ nearest s num den = normal s (roundHalfEven q d) (max (floorLog2 num den - 52) minExponent) := by
  refine ⟨_, _, ?_, ?_, if_neg hn⟩
  · rw [Nat.shiftLeft_eq]
    exact Nat.mul_pos hd (Nat.two_pow_pos _)
  · rw [spacing, two_zpow_eq_div, Nat.shiftLeft_eq, Nat.shiftLeft_eq]
    push_cast
    field_simp

/-- The result is half a distance away from the quotient at most. -/
theorem abs_nearest_sub_le (hd : 0 < den) (h : nearest s num den = .finite t m e) :
    |magnitude m e - num / den| ≤ spacing num den / 2 := by
  have hpos : 0 < spacing num den := zpow_pos two_pos _
  by_cases hn : num = 0
  · rw [hn, nearest_of_zero] at h
    cases h
    simpa [hn, magnitude] using (half_pos hpos).le
  · obtain ⟨q, d, hdpos, hq, hnear⟩ := nearest_of_ne_zero (s := s) hn hd
    rw [magnitude_normal (hnear.symm.trans h), magnitude]
    have hr := mul_le_mul_of_nonneg_right (abs_roundHalfEven_sub_le q hdpos) hpos.le
    rw [← abs_of_pos hpos, ← abs_mul, abs_of_pos hpos, hq, sub_mul, div_mul_cancel₀ _ hpos.ne'] at hr
    calc _ ≤ 1 / 2 * spacing num den := hr
      _ = spacing num den / 2 := by ring

theorem abs_nearest_sub_le_of_lt (hd : 0 < den) (h : nearest s num den = .finite t m e)
    (hlt : (num / den : ℚ) < 2 ^ k) (hk : minExponent + 53 ≤ k) :
    |magnitude m e - num / den| ≤ 2 ^ (k - 54) := by
  by_cases hn : num = 0
  · rw [hn, nearest_of_zero] at h
    cases h
    simpa [hn, magnitude] using (zpow_pos two_pos (k - 54)).le
  · have hlog := floorLog2_lt hn hd.ne' hlt
    calc _ ≤ spacing num den / 2 := abs_nearest_sub_le hd h
      _ ≤ 2 ^ (k - 53) / 2 :=
        div_le_div_of_nonneg_right (zpow_le_zpow_right₀ one_le_two (by omega)) two_pos.le
      _ = 2 ^ (k - 54) := by
        rw [show k - 53 = k - 54 + 1 by omega, zpow_add_one₀ two_ne_zero]
        ring

/-- A number of the format that is at least the quotient is at least the result. -/
theorem nearest_le (hd : 0 < den) (h : nearest s num den = .finite t m e) (hn : n < 2 ^ 53)
    (hf : minExponent ≤ f) (hle : (num / den : ℚ) ≤ magnitude n f) : magnitude m e ≤ magnitude n f := by
  by_cases hz : num = 0
  · rw [hz, nearest_of_zero] at h
    cases h
    simpa [magnitude] using magnitude_nonneg n f
  · obtain ⟨q, d, hdpos, hq, hnear⟩ := nearest_of_ne_zero (s := s) hz hd
    rw [magnitude_normal (hnear.symm.trans h)]
    have hexp : max (floorLog2 num den - 52) minExponent ≤ f := by
      have hlt : (num / den : ℚ) < 2 ^ (53 + f) := by
        refine hle.trans_lt ?_
        rw [magnitude, zpow_add₀ two_ne_zero]
        exact mul_lt_mul_of_pos_right (by exact_mod_cast hn) (zpow_pos two_pos _)
      have := floorLog2_lt hz hd.ne' hlt
      omega
    rw [spacing] at hq
    generalize max (floorLog2 num den - 52) minExponent = g at hq hexp ⊢
    -- in units of the distance the greater number is a natural one
    obtain ⟨j, hj⟩ := exists_magnitude_eq n hexp
    have hpos : (0 : ℚ) < 2 ^ g := zpow_pos two_pos _
    rw [hj] at hle ⊢
    have hround : roundHalfEven q d ≤ j := roundHalfEven_le hdpos (hq.trans_le ((div_le_iff₀ hpos).2 hle))
    exact mul_le_mul_of_nonneg_right (by exact_mod_cast hround) hpos.le

/-- A number of the format that is at most the quotient is at most the result. -/
theorem le_nearest (hd : 0 < den) (h : nearest s num den = .finite t m e) (hn : n < 2 ^ 53)
    (hf : minExponent ≤ f) (hle : magnitude n f ≤ num / den) : magnitude n f ≤ magnitude m e := by
  by_cases hz : num = 0
  · refine le_trans hle ?_
    rw [hz, Nat.cast_zero, zero_div]
    exact magnitude_nonneg m e
  · obtain ⟨q, d, hdpos, hq, hnear⟩ := nearest_of_ne_zero (s := s) hz hd
    rw [magnitude_normal (hnear.symm.trans h)]
    obtain ⟨hlog, -⟩ := floorLog2_spec hz hd.ne'
    have hexp : max (floorLog2 num den - 52) minExponent ≤ f
        ∨ f < max (floorLog2 num den - 52) minExponent
          ∧ max (floorLog2 num den - 52) minExponent = floorLog2 num den - 52 := by omega
    rw [spacing] at hq
    generalize max (floorLog2 num den - 52) minExponent = g at hq hexp ⊢
    have hpos : (0 : ℚ) < 2 ^ g := zpow_pos two_pos _
    obtain hexp | ⟨hexp, hg⟩ := hexp
    · obtain ⟨j, hj⟩ := exists_magnitude_eq n hexp
      rw [hj] at hle ⊢
      have hround : j ≤ roundHalfEven q d :=
        le_roundHalfEven hdpos (((le_div_iff₀ hpos).2 hle).trans hq.ge)
      exact mul_le_mul_of_nonneg_right (by exact_mod_cast hround) hpos.le
    · -- a number with a smaller exponent lies below the power of two under the quotient
      have hround : 2 ^ 52 ≤ roundHalfEven q d := by
        refine le_roundHalfEven hdpos ?_
        rw [hq, le_div_iff₀ hpos]
        refine le_trans (le_of_eq ?_) hlog
        rw [hg, zpow_sub₀ two_ne_zero]
        norm_num
        ring
      calc magnitude n f ≤ 2 ^ 53 * 2 ^ f :=
            mul_le_mul_of_nonneg_right (by exact_mod_cast hn.le) (zpow_pos two_pos _).le
        _ = 2 ^ 52 * 2 ^ (f + 1) := by rw [zpow_add_one₀ two_ne_zero]; ring
        _ ≤ 2 ^ 52 * 2 ^ g :=
            mul_le_mul_of_nonneg_left (zpow_le_zpow_right₀ one_le_two (by omega)) (by positivity)
        _ ≤ magnitude (roundHalfEven q d) g :=
            mul_le_mul_of_nonneg_right (by exact_mod_cast hround) hpos.le

/-- A quotient that the format holds is not changed. -/
theorem nearest_of_magnitude (hd : 0 < den) (h : nearest s num den = .finite t m e) (hn : n < 2 ^ 53)
    (hf : minExponent ≤ f) (hv : (num / den : ℚ) = magnitude n f) : magnitude m e = magnitude n f :=
  le_antisymm (nearest_le hd h hn hf hv.le) (le_nearest hd h hn hf hv.ge)

/-- A result has at most 53 significant bits, and no smaller exponent than the format. -/
theorem nearest_fits (hd : 0 < den) (h : nearest s num den = .finite t m e) :
    m < 2 ^ 53 ∧ minExponent ≤ e := by
  by_cases hz : num = 0
  · rw [hz, nearest_of_zero] at h
    cases h
    exact ⟨by decide, le_refl _⟩
  · obtain ⟨q, d, hdpos, hq, hnear⟩ := nearest_of_ne_zero (s := s) hz hd
    have hle : roundHalfEven q d ≤ 2 ^ 53 := by
      have hlt : (q / d : ℚ) < 2 ^ 53 := by
        rw [hq, spacing, div_lt_iff₀ (zpow_pos two_pos _), ← zpow_natCast, ← zpow_add₀ two_ne_zero]
        refine (floorLog2_spec hz hd.ne').2.trans_le (zpow_le_zpow_right₀ one_le_two ?_)
        push_cast
        omega
      exact roundHalfEven_le hdpos (by exact_mod_cast hlt.le)
    have hexp := le_max_right (floorLog2 num den - 52) minExponent
    rw [hnear, normal_eq] at h
    split at h
    · split at h
      · cases h
      · cases h
        exact ⟨by decide, by omega⟩
    · split at h
      · cases h
      · rename_i hne _
        cases h
        exact ⟨Nat.lt_of_le_of_ne hle hne, hexp⟩

/-- A greater quotient does not have a smaller result. -/
theorem nearest_mono {num' den' : Nat} {s' : Bool} {t' : Bool} (hd : 0 < den) (hd' : 0 < den')
    (hle : (num / den : ℚ) ≤ num' / den') (h : nearest s num den = .finite t m e)
    (h' : nearest s' num' den' = .finite t' n f) : magnitude m e ≤ magnitude n f := by
  by_cases hz : num = 0
  · rw [hz, nearest_of_zero] at h
    cases h
    simpa [magnitude] using magnitude_nonneg n f
  · have hz' : num' ≠ 0 := by
      rintro rfl
      rw [Nat.cast_zero, zero_div, div_le_iff₀ (Nat.cast_pos.2 hd), zero_mul] at hle
      exact hz (by exact_mod_cast le_antisymm hle (Nat.cast_nonneg num))
    obtain ⟨hlo, -⟩ := floorLog2_spec hz hd.ne'
    obtain ⟨hlo', hhi'⟩ := floorLog2_spec hz' hd'.ne'
    have hlog : floorLog2 num den < floorLog2 num' den' + 1 := floorLog2_lt hz hd.ne' (hle.trans_lt hhi')
    by_cases hsame : max (floorLog2 num den - 52) minExponent = max (floorLog2 num' den' - 52) minExponent
    · obtain ⟨q, d, hdpos, hq, hnear⟩ := nearest_of_ne_zero (s := s) hz hd
      obtain ⟨q', d', hdpos', hq', hnear'⟩ := nearest_of_ne_zero (s := s') hz' hd'
      rw [magnitude_normal (hnear.symm.trans h), magnitude_normal (hnear'.symm.trans h'), ← hsame]
      have hpos : 0 < spacing num den := zpow_pos two_pos _
      have hspace : spacing num' den' = spacing num den := by rw [spacing, spacing, hsame]
      have hqq : (q / d : ℚ) ≤ q' / d' := by
        rw [hq, hq', hspace]
        exact div_le_div_of_nonneg_right hle hpos.le
      rw [div_le_div_iff₀ (Nat.cast_pos.2 hdpos) (Nat.cast_pos.2 hdpos')] at hqq
      have hround := roundHalfEven_mono hdpos hdpos' (by exact_mod_cast hqq)
      exact mul_le_mul_of_nonneg_right (by exact_mod_cast hround) (zpow_pos two_pos _).le
    · -- a power of two lies between the quotients
      have hpow : magnitude 1 (floorLog2 num' den') = 2 ^ floorLog2 num' den' := by
        rw [magnitude, Nat.cast_one, one_mul]
      have hmin : minExponent ≤ floorLog2 num' den' := by omega
      calc magnitude m e
          ≤ magnitude 1 (floorLog2 num' den') := by
            refine nearest_le hd h (by decide) hmin ?_
            rw [hpow]
            refine (floorLog2_spec hz hd.ne').2.le.trans (zpow_le_zpow_right₀ one_le_two ?_)
            omega
        _ ≤ magnitude n f := le_nearest hd' h' (by decide) hmin (hpow.trans_le hlo')

/-- Quotients that are not excessive have finite results. -/
theorem nearest_finite (s : Bool) (num : Nat) (hd : 0 < den) (h : (num / den : ℚ) ≤ 2 ^ 100) :
    ∃ m e, nearest s num den = .finite s m e := by
  by_cases hz : num = 0
  · exact ⟨0, minExponent, by rw [hz, nearest_of_zero]⟩
  · obtain ⟨q, d, -, -, hnear⟩ := nearest_of_ne_zero (s := s) hz hd
    have hlt := floorLog2_lt hz hd.ne' (k := 101) (h.trans_lt (by norm_num))
    have hbelow : ∀ k, k ≤ max (floorLog2 num den - 52) minExponent + 1 → ¬ maxExponent < k := by
      intro k hk
      unfold maxExponent minExponent at *
      omega
    rw [hnear, normal_eq, if_neg (hbelow _ le_rfl), if_neg (hbelow _ (by omega))]
    split
    · exact ⟨_, _, rfl⟩
    · exact ⟨_, _, rfl⟩

theorem addMagnitude_eq (s t : Bool) (m n : Nat) (e f : Int) : ∃ num den : Nat, 0 < den
    ∧ (num / den : ℚ) = magnitude m e + magnitude n f
    ∧ addMagnitude (.finite s m e) (.finite t n f) = nearest false num den := by
  have he : (denominator e : ℚ) ≠ 0 := by exact_mod_cast (denominator_pos e).ne'
  have hf : (denominator f : ℚ) ≠ 0 := by exact_mod_cast (denominator_pos f).ne'
  refine ⟨_, _, Nat.mul_pos (denominator_pos e) (denominator_pos f), ?_, rfl⟩
  rw [magnitude_eq_div, magnitude_eq_div]
  push_cast
  field_simp

theorem mul_eq (s t : Bool) (m n : Nat) (e f : Int) : ∃ num den : Nat, 0 < den
    ∧ (num / den : ℚ) = magnitude m e * magnitude n f
    ∧ mul (.finite s m e) (.finite t n f) = nearest (s != t) num den := by
  refine ⟨_, _, Nat.mul_pos (denominator_pos e) (denominator_pos f), ?_, rfl⟩
  rw [magnitude_eq_div, magnitude_eq_div]
  push_cast
  exact (div_mul_div_comm ..).symm

end Binary64
end PartitionConsumer
