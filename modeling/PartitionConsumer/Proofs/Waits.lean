import PartitionConsumer.Options
import PartitionConsumer.Proofs.Waits.Rounding
/-!
# Waits between attempts

The wait before an attempt is compared with the greatest one in rounded seconds, and is made of rounded
seconds. So what the greatest wait itself becomes on the way through seconds and back decides whether every
wait can be computed, and whether all of them are bounded by it. A spread wait is made of whole milliseconds.
-/
namespace PartitionConsumer

open Binary64 (magnitude magnitude_eq_div numerator denominator denominator_pos nearest)

variable {d w : Span} {b : Backoff}

/-! ## Spans in seconds -/

section Seconds

variable {m n : Nat} {e f : Int}

namespace Span

theorem seconds_lt (h : d.nanos < bound) : d.seconds < 2 ^ 64 := by
  unfold bound at h
  exact Nat.div_lt_of_lt_mul (by rw [Nat.mul_comm]; exact h)

theorem subsecond_div_lt (d : Span) : (d.subsecond / nanosPerSecond : ℚ) < 1 := by
  rw [div_lt_one (by norm_num [nanosPerSecond])]
  exact_mod_cast d.subsecond_lt

/-- A span in seconds is the rounded sum of its whole seconds and its fraction, both rounded. -/
theorem toBinary64_eq (h : d.nanos < bound) :
    ∃ (m₁ : Nat) (e₁ : Int) (m₂ : Nat) (e₂ : Int) (num den m : Nat) (e : Int),
    nearest false d.seconds 1 = .finite false m₁ e₁
    ∧ nearest false d.subsecond nanosPerSecond = .finite false m₂ e₂
    ∧ 0 < den ∧ (num / den : ℚ) = magnitude m₁ e₁ + magnitude m₂ e₂
    ∧ nearest false num den = .finite false m e ∧ d.toBinary64 = .finite false m e
    ∧ magnitude m e ≤ 2 ^ 100 := by
  have hsec : (d.seconds : ℚ) ≤ 2 ^ 64 := by exact_mod_cast (seconds_lt h).le
  obtain ⟨m₁, e₁, h₁⟩ := Binary64.nearest_finite false d.seconds Nat.one_pos (by
    rw [Nat.cast_one, div_one]
    exact hsec.trans (by norm_num))
  obtain ⟨m₂, e₂, h₂⟩ := Binary64.nearest_finite false d.subsecond
    (by decide : 0 < nanosPerSecond) (d.subsecond_div_lt.le.trans (by norm_num))
  have hle₁ : magnitude m₁ e₁ ≤ magnitude 1 64 :=
    Binary64.nearest_le Nat.one_pos h₁ (by decide) (by decide) (by
      rw [Nat.cast_one, div_one]
      norm_num [magnitude] at hsec ⊢
      exact hsec)
  have hle₂ : magnitude m₂ e₂ ≤ magnitude 1 0 :=
    Binary64.nearest_le (by decide) h₂ (by decide) (by decide)
      (by simpa [magnitude] using d.subsecond_div_lt.le)
  obtain ⟨num, den, hden, hsum, hadd⟩ := Binary64.addMagnitude_eq false false m₁ m₂ e₁ e₂
  have hpow : magnitude 1 100 = 2 ^ 100 := by norm_num [magnitude]
  have hle : (num / den : ℚ) ≤ magnitude 1 100 :=
    calc (num / den : ℚ) ≤ magnitude 1 64 + magnitude 1 0 := hsum.trans_le (add_le_add hle₁ hle₂)
      _ ≤ magnitude 1 100 := by norm_num [magnitude]
  obtain ⟨m, e, h₃⟩ := Binary64.nearest_finite false num hden (hle.trans_eq hpow)
  refine ⟨m₁, e₁, m₂, e₂, num, den, m, e, h₁, h₂, hden, hsum, h₃, ?_,
    (Binary64.nearest_le hden h₃ (by decide) (by decide) hle).trans_eq hpow⟩
  rw [toBinary64, Binary64.ofNat, h₁, h₂, hadd, h₃]

/-! ## Back from seconds -/

theorem numerator_mul_div (m : Nat) (e : Int) :
    ((numerator m e * nanosPerSecond : Nat) / denominator e : ℚ) = magnitude m e * nanosPerSecond := by
  rw [magnitude_eq_div]
  push_cast
  exact mul_div_right_comm ..

theorem ofBinary64_congr (s t : Bool) (h : magnitude m e = magnitude n f) :
    ofBinary64 (.finite s m e) = ofBinary64 (.finite t n f) := by
  have hround : roundHalfEven (numerator m e * nanosPerSecond) (denominator e)
      = roundHalfEven (numerator n f * nanosPerSecond) (denominator f) := by
    refine roundHalfEven_congr (denominator_pos e) (denominator_pos f) ?_
    have := (numerator_mul_div m e).trans ((congrArg (· * _) h).trans (numerator_mul_div n f).symm)
    rw [div_eq_div_iff (by exact_mod_cast (denominator_pos e).ne')
      (by exact_mod_cast (denominator_pos f).ne')] at this
    exact_mod_cast this
  simp only [ofBinary64, hround]

/-- Fewer seconds make a shorter span. -/
theorem ofBinary64_mono (s : Bool) {t : Bool}
    (h : numerator m e * denominator f ≤ numerator n f * denominator e)
    (hw : ofBinary64 (.finite t n f) = .ok w) :
    ∃ v, ofBinary64 (.finite s m e) = .ok v ∧ v.nanos ≤ w.nanos := by
  have hround : roundHalfEven (numerator m e * nanosPerSecond) (denominator e)
      ≤ roundHalfEven (numerator n f * nanosPerSecond) (denominator f) := by
    refine roundHalfEven_mono (denominator_pos e) (denominator_pos f) ?_
    calc numerator m e * nanosPerSecond * denominator f
        = numerator m e * denominator f * nanosPerSecond := by ring
      _ ≤ numerator n f * denominator e * nanosPerSecond := Nat.mul_le_mul_right _ h
      _ = numerator n f * nanosPerSecond * denominator e := by ring
  unfold ofBinary64 at hw ⊢
  dsimp only at hw ⊢
  split at hw
  · rename_i hlt
    cases hw
    exact ⟨_, if_pos (hround.trans_lt hlt), hround⟩
  · cases hw

/-- 2^64 seconds and more are no span. -/
theorem ofBinary64_tooLong (s : Bool) (h : 2 ^ 64 ≤ magnitude m e) :
    ofBinary64 (.finite s m e) = .error .tooLong := by
  refine if_neg (Nat.not_lt.2 (le_roundHalfEven (denominator_pos e) ?_))
  rw [numerator_mul_div, bound, Nat.one_shiftLeft]
  push_cast
  exact mul_le_mul_of_nonneg_right h (Nat.cast_nonneg _)

theorem ofBinary64_of_le (s : Bool) (h : magnitude m e ≤ 2 ^ 64 - 1) :
    ∃ v, ofBinary64 (.finite s m e) = .ok v := by
  refine ⟨_, if_pos (Nat.lt_of_le_of_lt (roundHalfEven_le (k := (2 ^ 64 - 1) * nanosPerSecond)
    (denominator_pos e) ?_) (by decide))⟩
  rw [numerator_mul_div]
  push_cast
  exact mul_le_mul_of_nonneg_right (h.trans_eq (by norm_num)) (Nat.cast_nonneg _)

/-- What a span becomes in seconds and back. -/
def viaSeconds (d : Span) : Except WaitError Span := ofBinary64 d.toBinary64

/-- Within 1024 seconds of 2^64 the seconds are rounded up to it. -/
theorem viaSeconds_isOk_iff (h : d.nanos < bound) :
    (∃ w, d.viaSeconds = .ok w) ↔ d.seconds + 1024 < 2 ^ 64 := by
  obtain ⟨m₁, e₁, m₂, e₂, num, den, m, e, h₁, h₂, hden, hsum, h₃, heq, -⟩ := toBinary64_eq h
  rw [viaSeconds, heq]
  constructor
  · rintro ⟨w, hw⟩
    refine Nat.lt_of_not_le fun hle => ?_
    have hmid : nearest false (2 ^ 64 - 1024) 1 = .finite false (2 ^ 52) 12 := by decide
    have hsec : magnitude (2 ^ 52) 12 ≤ magnitude m₁ e₁ :=
      Binary64.nearest_mono Nat.one_pos Nat.one_pos
        (by rw [Nat.cast_one, div_one, div_one]; exact_mod_cast (by omega)) hmid h₁
    have hall : magnitude (2 ^ 52) 12 ≤ magnitude m e :=
      Binary64.le_nearest hden h₃ (by decide) (by decide)
        (by rw [hsum]; exact le_add_of_le_of_nonneg hsec (Binary64.magnitude_nonneg m₂ e₂))
    rw [ofBinary64_tooLong false (le_trans (by norm_num [magnitude]) hall)] at hw
    cases hw
  · intro hlt
    have hbelow : nearest false (2 ^ 64 - 1025) 1 = .finite false (2 ^ 53 - 1) 11 := by decide
    have hsec : magnitude m₁ e₁ ≤ magnitude (2 ^ 53 - 1) 11 :=
      Binary64.nearest_mono Nat.one_pos Nat.one_pos
        (by rw [Nat.cast_one, div_one, div_one]; exact_mod_cast (by omega)) h₁ hbelow
    have hsub : magnitude m₂ e₂ ≤ magnitude 1 0 :=
      Binary64.nearest_le (by decide) h₂ (by decide) (by decide)
        (by simpa [magnitude] using d.subsecond_div_lt.le)
    have hend : nearest false (2 ^ 64 - 2047) 1 = .finite false (2 ^ 53 - 1) 11 := by decide
    have hall : magnitude m e ≤ magnitude (2 ^ 53 - 1) 11 := by
      refine Binary64.nearest_mono hden Nat.one_pos ?_ h₃ hend
      calc (num / den : ℚ)
          ≤ magnitude (2 ^ 53 - 1) 11 + magnitude 1 0 := hsum.trans_le (add_le_add hsec hsub)
        _ ≤ (2 ^ 64 - 2047 : Nat) / (1 : Nat) := by norm_num [magnitude]
    exact ofBinary64_of_le false (hall.trans (by norm_num [magnitude]))

/-- Below 2^23 seconds both roundings together miss less than half a nanosecond. -/
theorem viaSeconds_of_seconds_lt (h : d.seconds < 2 ^ 23) : d.viaSeconds = .ok d := by
  have hparts : d.nanos = d.seconds * nanosPerSecond + d.subsecond := (congrArg nanos d.parts).symm
  have hsub := d.subsecond_lt
  have hbound : d.nanos < bound := by
    unfold bound nanosPerSecond at *
    omega
  obtain ⟨m₁, e₁, m₂, e₂, num, den, m, e, h₁, h₂, hden, hsum, h₃, heq, -⟩ := toBinary64_eq hbound
  have hsec : magnitude m₁ e₁ = d.seconds := by
    have hv : magnitude d.seconds 0 = d.seconds := by simp [magnitude]
    rw [← hv]
    exact Binary64.nearest_of_magnitude Nat.one_pos h₁ (by omega) (by decide) (by simp [magnitude])
  have herr₂ : |magnitude m₂ e₂ - d.subsecond / nanosPerSecond| ≤ 2 ^ (0 - 54 : Int) :=
    Binary64.abs_nearest_sub_le_of_lt (by decide) h₂ (by simpa using d.subsecond_div_lt) (by decide)
  have hsubdiv : (d.subsecond / nanosPerSecond : ℚ) ≤ (nanosPerSecond - 1) / nanosPerSecond := by
    refine div_le_div_of_nonneg_right ?_ (Nat.cast_nonneg _)
    exact le_sub_iff_add_le.2 (by exact_mod_cast hsub)
  have hsecle : (d.seconds : ℚ) ≤ 2 ^ 23 - 1 := le_sub_iff_add_le.2 (by exact_mod_cast h)
  have herr₃ : |magnitude m e - num / den| ≤ 2 ^ (23 - 54 : Int) := by
    refine Binary64.abs_nearest_sub_le_of_lt hden h₃ ?_ (by decide)
    obtain ⟨-, hup⟩ := abs_le.1 herr₂
    rw [hsum, hsec]
    norm_num [nanosPerSecond] at hup hsubdiv ⊢
    linarith
  have hnear : |((numerator m e * nanosPerSecond : Nat) / denominator e : ℚ) - d.nanos| < 1 / 2 := by
    obtain ⟨hlo₂, hup₂⟩ := abs_le.1 herr₂
    obtain ⟨hlo₃, hup₃⟩ := abs_le.1 herr₃
    rw [hsum, hsec] at hlo₃ hup₃
    rw [numerator_mul_div, hparts, abs_lt]
    norm_num [nanosPerSecond] at hlo₂ hup₂ hlo₃ hup₃ ⊢
    constructor <;> linarith
  rw [viaSeconds, heq]
  unfold ofBinary64
  dsimp only
  rw [roundHalfEven_eq_of_near (denominator_pos e) hnear, if_pos hbound]

end Span
end Seconds

/-! ## Waits of a policy -/

namespace Backoff

variable {failed draw : Nat}

/-- A wait that is not the greatest is at most what that becomes in seconds and back. -/
theorem base_of_viaSeconds (h : b.max.viaSeconds = .ok w) (failed : Nat) :
    ∃ v, b.base failed = .ok v ∧ v.nanos ≤ Nat.max w.nanos b.max.nanos := by
  have hmax : b.max.nanos ≤ Nat.max w.nanos b.max.nanos := Nat.le_max_right ..
  unfold base
  split
  · exact ⟨.zero, rfl, Nat.zero_le _⟩
  · dsimp only
    split
    · exact ⟨b.max, rfl, hmax⟩
    · rename_i hsecs
      generalize b.first.toBinary64.mul _ = secs at hsecs ⊢
      unfold Span.viaSeconds at h
      generalize b.max.toBinary64 = greatest at h hsecs
      cases secs with
      | undefined => simp [Binary64.isFinite] at hsecs
      | infinite s => simp [Binary64.isFinite] at hsecs
      | finite s m e =>
        cases greatest with
        | undefined => cases h
        | infinite t => cases h
        | finite t n f =>
          simp only [Bool.or_eq_true, not_or, Bool.not_eq_true] at hsecs
          obtain ⟨v, hv, hvw⟩ := Span.ofBinary64_mono s (Nat.not_lt.1 (of_decide_eq_false hsecs.2)) h
          exact ⟨v, hv, hvw.trans (Nat.le_max_left ..)⟩

/-- A policy whose first wait is its greatest takes that through seconds and back. -/
theorem base_of_first_eq_max (hmax : b.max.nanos < Span.bound) (hfirst : b.first = b.max)
    (hpos : b.first.isZero = false) : b.base 1 = b.max.viaSeconds := by
  obtain ⟨_, _, _, _, _, _, m, e, -, -, hdpos, -, h₀, heq, hle⟩ := Span.toBinary64_eq hmax
  obtain ⟨hm, he⟩ := Binary64.nearest_fits hdpos h₀
  have hone : magnitude (2 ^ 52) (-52) = 1 := by norm_num [magnitude]
  obtain ⟨num, den, hden, hprod, hmul⟩ := Binary64.mul_eq false false m (2 ^ 52) e (-52)
  rw [hone, mul_one] at hprod
  obtain ⟨n, f, h₁⟩ := Binary64.nearest_finite false num hden (hprod.trans_le hle)
  have hsame : magnitude n f = magnitude m e := Binary64.nearest_of_magnitude hden h₁ hm he hprod
  have hexceeds : (Binary64.finite false n f).exceeds (.finite false m e) = false :=
    decide_eq_false (Nat.not_lt.2 (Binary64.magnitude_le_iff.1 hsame.le))
  have hsecs : b.first.toBinary64.mul ((Binary64.ofBits b.factor).pow 0) = .finite false n f := by
    rw [hfirst, heq]
    exact hmul.trans h₁
  have hpower : min (1 - 1) maxPower = 0 := by decide
  unfold base
  dsimp only
  rw [if_neg (Bool.eq_false_iff.1 hpos), hpower, hsecs, heq, hexceeds,
    if_neg (by simp [Binary64.isFinite, Binary64.isNegative]), Span.viaSeconds, heq]
  exact Span.ofBinary64_congr false false hsame

theorem jitterRange_le (d : Span) : 2 * jitterRange d ≤ d.millis := by
  have := Nat.mod_le d.millis (1 <<< 64)
  unfold jitterRange
  omega

/-- A spread wait is not longer than the wait. -/
theorem spread_le (d : Span) (draw : Nat) : (spread d draw).nanos ≤ d.nanos := by
  have hrange := jitterRange_le d
  unfold spread
  dsimp only
  split
  · exact Nat.le_refl _
  · have hdraw : draw % (jitterRange d + 1) < jitterRange d + 1 := Nat.mod_lt _ (Nat.succ_pos _)
    calc (jitterRange d + draw % (jitterRange d + 1)) * nanosPerTick
        ≤ d.millis * nanosPerTick := Nat.mul_le_mul_right _ (by omega)
      _ ≤ d.nanos := Nat.div_mul_le_self ..

/-- A wait that can be computed can be spread. -/
theorem delay_of_base (h : b.base failed = .ok w) (draw : Nat) :
    ∃ v, b.delay failed draw = .ok v ∧ v.nanos ≤ w.nanos := by
  refine ⟨_, by rw [delay, h]; rfl, ?_⟩
  split
  · exact spread_le w draw
  · exact Nat.le_refl _

theorem base_of_delay (h : b.delay failed draw = .ok w) (hj : b.jitter = false) : b.base failed = .ok w := by
  unfold delay at h
  cases hb : b.base failed with
  | error err => rw [hb] at h; cases h
  | ok v =>
    rw [hb, hj] at h
    exact h

/-- Every wait that valid options with this greatest wait ask for can be computed, and is like this. -/
def EveryWait (max : Span) (P : Span → Prop) : Prop :=
  ∀ o : Options, o.validate = .ok () → o.retry.max = max →
    ∀ failed draw, ∃ w, o.retry.delay failed draw = .ok w ∧ P w

variable {max : Span} {P : Span → Prop}

theorem everyWait_of_viaSeconds (h : max.viaSeconds = .ok w) :
    EveryWait max fun v => v.nanos ≤ Nat.max w.nanos max.nanos := by
  rintro o - rfl failed draw
  obtain ⟨v, hv, hle⟩ := base_of_viaSeconds h failed
  obtain ⟨u, hu, huv⟩ := delay_of_base hv draw
  exact ⟨u, hu, huv.trans hle⟩

/-- The first wait of some options is the greatest wait on its way through seconds. -/
theorem viaSeconds_of_everyWait (hmax : max.nanos < Span.bound) (h : EveryWait max P) (hzero : P .zero) :
    ∃ w, max.viaSeconds = .ok w ∧ P w := by
  by_cases hpos : max.isZero = true
  · have : max = .zero := by
      cases max
      simpa [Span.isZero, Span.zero] using hpos
    exact ⟨.zero, by rw [this]; rfl, hzero⟩
  · obtain ⟨w, hw, hP⟩ := h { retry := { first := max, max := max } }
      rfl rfl 1 0
    refine ⟨w, ?_, hP⟩
    rw [← base_of_delay hw rfl]
    exact (base_of_first_eq_max (b := { first := max, max := max }) hmax rfl (Bool.eq_false_iff.2 hpos)).symm

theorem delay_of_jitter (hj : b.jitter = true) (h : b.base failed = .ok d) (draw : Nat) :
    b.delay failed draw = .ok (spread d draw) := by
  rw [delay, h, hj]
  rfl

/-- Half the milliseconds, or the wait itself, are drawn at least. -/
theorem le_spread (d : Span) (draw : Nat) :
    jitterRange d = 0 ∧ spread d draw = d ∨ jitterRange d * nanosPerTick ≤ (spread d draw).nanos := by
  by_cases h : jitterRange d = 0
  · exact .inl ⟨h, if_pos h⟩
  · refine .inr ?_
    rw [spread, if_neg h]
    exact Nat.mul_le_mul_right _ (Nat.le_add_right ..)

theorem spread_zero_draw (h : jitterRange d ≠ 0) : (spread d 0).nanos = jitterRange d * nanosPerTick := by
  rw [spread, if_neg h, Nat.zero_mod, Nat.add_zero]
  rfl

/-- Every wait is the greatest of a policy that grows without bound. -/
theorem exists_base (d : Span) : ∃ b : Backoff, b.jitter = true ∧ b.base 2 = .ok d := by
  have hpower : min (2 - 1) maxPower = 1 := Nat.min_eq_left (by decide)
  have hinfinite : (⟨1⟩ : Span).toBinary64.mul ((Binary64.ofBits 9218868437227405312).pow 1)
      = .infinite false := by decide +kernel
  refine ⟨{ first := ⟨1⟩, max := d, factor := 9218868437227405312, jitter := true }, rfl, ?_⟩
  unfold base
  dsimp only
  rw [hpower, hinfinite]
  rfl

end Backoff

section Main

/-- For every greatest wait: all waits of all valid options with it can be computed and are bounded by it
exactly if it comes back from seconds no longer than it was, which it does unchanged below 2^23 seconds; they
can all be computed exactly if it is more than 1024 seconds below 2^64 seconds, and no wait exceeds both it and
what comes back. The deadline of an attempt with a time limit cannot be held exactly from the end of the clock
on. -/
theorem waits_bounded (max : Span) (h : max.nanos < Span.bound) :
    (Backoff.EveryWait max (fun w => w.nanos ≤ max.nanos)
      ↔ ∃ w, max.viaSeconds = .ok w ∧ w.nanos ≤ max.nanos)
    ∧ (max.seconds < 2 ^ 23 → max.viaSeconds = .ok max)
    ∧ (Backoff.EveryWait max (fun _ => True) ↔ max.seconds + 1024 < 2 ^ 64)
    ∧ (∀ w, max.viaSeconds = .ok w → Backoff.EveryWait max fun v => v.nanos ≤ Nat.max w.nanos max.nanos)
    ∧ ∀ (o : Options) (now : Nat), o.attemptDeadline? now = none
      ↔ o.attemptTimeout.isZero = false ∧ clockBound ≤ now * nanosPerTick + o.attemptTimeout.nanos := by
  refine ⟨⟨fun hall => ?bounded, ?back⟩, Span.viaSeconds_of_seconds_lt, ⟨fun hall => ?computed, ?total⟩,
    fun _ => Backoff.everyWait_of_viaSeconds, fun o now => ?deadline⟩
  case bounded => exact Backoff.viaSeconds_of_everyWait h hall (Nat.zero_le _)
  case back =>
    rintro ⟨w, hw, hle⟩ o hvalid hmax failed draw
    obtain ⟨v, hv, hvw⟩ := Backoff.everyWait_of_viaSeconds hw o hvalid hmax failed draw
    exact ⟨v, hv, hvw.trans (Nat.max_le.2 ⟨hle, Nat.le_refl _⟩)⟩
  case computed =>
    obtain ⟨w, hw, -⟩ := Backoff.viaSeconds_of_everyWait h hall trivial
    exact (Span.viaSeconds_isOk_iff h).1 ⟨w, hw⟩
  case total =>
    intro hlt o hvalid hmax failed draw
    obtain ⟨w, hw⟩ := (Span.viaSeconds_isOk_iff h).2 hlt
    obtain ⟨v, hv, -⟩ := Backoff.everyWait_of_viaSeconds hw o hvalid hmax failed draw
    exact ⟨v, hv, trivial⟩
  case deadline =>
    unfold Options.attemptDeadline? Options.attemptLimit
    cases hz : o.attemptTimeout.isZero with
    | true => simp
    | false => simp [deadline?]

/-- One nanosecond above 2^23 seconds comes back as two. -/
theorem waits_bounded_but_for_one_nanosecond :
    (⟨8388608000000001⟩ : Span).nanos < Span.bound
    ∧ ¬ Backoff.EveryWait ⟨8388608000000001⟩ (fun w => w.nanos ≤ 8388608000000001) := by
  have hlt : (⟨8388608000000001⟩ : Span).nanos < Span.bound := by decide
  refine ⟨hlt, fun hall => ?_⟩
  obtain ⟨w, hw, hle⟩ := (waits_bounded _ hlt).1.1 hall
  have hback : (⟨8388608000000001⟩ : Span).viaSeconds = .ok ⟨8388608000000002⟩ := by rfl
  rw [hback] at hw
  cases hw
  exact absurd hle (by decide)

/-- For every wait before it is spread, and every wait is one: a spread wait is never longer. None is shorter
than half of it exactly if the wait is an even number of milliseconds in one word, or if what a word leaves of its
milliseconds is less than two; within a word it is always less than a millisecond shorter. -/
theorem spread_waits (d : Span) :
    (∃ b : Backoff, b.jitter = true ∧ b.base 2 = .ok d)
    ∧ ∀ (b : Backoff) (failed : Nat), b.jitter = true → b.base failed = .ok d →
      (∀ draw, ∃ w, b.delay failed draw = .ok w ∧ w.nanos ≤ d.nanos)
      ∧ ((∀ draw w, b.delay failed draw = .ok w → d.nanos ≤ 2 * w.nanos)
        ↔ d.millis % 2 ^ 64 < 2 ∨ d.millis < 2 ^ 64 ∧ 2 * nanosPerTick ∣ d.nanos)
      ∧ (d.millis < 2 ^ 64 → ∀ draw w, b.delay failed draw = .ok w →
        d.nanos < 2 * w.nanos + 2 * nanosPerTick) := by
  refine ⟨Backoff.exists_base d, fun b failed hj hd => ?_⟩
  have hdelay := Backoff.delay_of_jitter hj hd
  have hmillis : d.millis * nanosPerTick ≤ d.nanos ∧ d.nanos < d.millis * nanosPerTick + nanosPerTick := by
    unfold Span.millis nanosPerTick
    omega
  have hrange : Backoff.jitterRange d = d.millis % 2 ^ 64 / 2 := rfl
  have hnot : ∀ draw w, b.delay failed draw = .ok w → w = Backoff.spread d draw := by
    intro draw w hw
    rw [hdelay] at hw
    exact (Except.ok.inj hw).symm
  refine ⟨fun draw => ⟨_, hdelay draw, Backoff.spread_le d draw⟩, ⟨fun hall => ?only, ?all⟩, ?near⟩
  case only =>
    by_cases hzero : Backoff.jitterRange d = 0
    · omega
    · have hle := hall 0 _ (hdelay 0)
      rw [Backoff.spread_zero_draw hzero] at hle
      unfold nanosPerTick at *
      right
      omega
  case all =>
    intro hd draw w hw
    rw [hnot draw w hw]
    obtain ⟨-, heq⟩ | hle := Backoff.le_spread d draw
    · rw [heq]
      omega
    · obtain hsmall | ⟨hword, k, hk⟩ := hd
      · rw [show Backoff.spread d draw = d from if_pos (by omega)]
        omega
      · unfold nanosPerTick at *
        omega
  case near =>
    intro hword draw w hw
    rw [hnot draw w hw]
    obtain ⟨-, heq⟩ | hle := Backoff.le_spread d draw
    · rw [heq]
      unfold nanosPerTick
      omega
    · unfold nanosPerTick at *
      omega

/-- Three milliseconds may be spread to one. -/
theorem spread_waits_below_half_of_three_millis :
    ∃ b : Backoff, b.jitter = true ∧ b.base 2 = .ok (.ofMillis 3)
      ∧ ¬ ∀ draw w, b.delay 2 draw = .ok w → (Span.ofMillis 3).nanos ≤ 2 * w.nanos := by
  obtain ⟨⟨b, hj, hd⟩, hall⟩ := spread_waits (.ofMillis 3)
  exact ⟨b, hj, hd, (hall b 2 hj hd).2.1.not.2 (by decide)⟩

end Main
end PartitionConsumer
