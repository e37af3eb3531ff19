import ClusterOperator.Proofs.Binary64.Spacing
import Mathlib.Algebra.Order.Floor.Semifield
import Mathlib.Data.Nat.Cast.Order.Field
import Mathlib.Data.Rat.Floor

/-!
# The shortest decimal rounds to its double

The search for the shortest decimal compares numerators of one denominator; read as
rationals they are the ends of the interval of the double (`holds_ratio_iff`).  It tries
grids of ever smaller steps and takes what it finds in the interval.  A step of at most the
distance to the lower end leaves the multiple below the double in the interval, and that is so
on the last grid it tries: a double has fifty-three bits, and `2 ^ 54` is less than `10 ^ 17`.
So the search finds a decimal (`covers_shortest`), and never gives up.
-/

namespace ClusterOperator.Binary64

variable {x : Binary64} {i : Interval} {d : Decimal} {tie : Tie} {scale : Int}
  {num den n tries : Nat}

/-! ## Numerators and denominators -/

theorem zpow_eq_div (base : ℚ) (e : Int) : base ^ e = base ^ e.toNat / base ^ (-e).toNat := by
  cases e with
  | ofNat k => simp
  | negSucc k => simp [zpow_negSucc, Int.neg_negSucc]

/-- The rational that a decimal stands for. -/
def Decimal.value (d : Decimal) : ℚ := d.digits * 10 ^ d.scale

theorem Decimal.ratio_div (d : Decimal) : (d.ratio.1 : ℚ) / d.ratio.2 = d.value := by
  simp only [ratio, Nat.pow_eq, Nat.cast_mul, Nat.cast_pow, Nat.cast_ofNat]
  rw [value, zpow_eq_div, mul_div_assoc]

theorem Decimal.ratio_pos (d : Decimal) : 0 < d.ratio.2 := Nat.pow_pos (by decide)

/-- The real that a double is, its sign aside. -/
def size (x : Binary64) : ℚ := 4 * x.significand * 2 ^ (x.exponent - 2)

theorem interval_den_pos (x : Binary64) : 0 < x.interval.den := Nat.pow_pos (by decide)

theorem low_div (h : x.significand ≠ 0) :
    (x.interval.low : ℚ) / x.interval.den = x.lower := by
  have hbelow : x.below ≤ 4 * x.significand := by
    unfold below
    split <;> omega
  have hlow : x.interval.low = (4 * x.significand - x.below) * Nat.pow 2 (x.exponent - 2).toNat :=
    rfl
  rw [hlow, interval, lower, zpow_eq_div, ← mul_div_assoc]
  simp only [Nat.pow_eq, Nat.cast_mul, Nat.cast_sub hbelow, Nat.cast_pow, Nat.cast_ofNat]

theorem mid_div : (x.interval.mid : ℚ) / x.interval.den = x.size := by
  rw [interval, size, zpow_eq_div, ← mul_div_assoc]
  simp only [Nat.pow_eq, Nat.cast_mul, Nat.cast_pow, Nat.cast_ofNat]

theorem high_div : (x.interval.high : ℚ) / x.interval.den = x.upper := by
  rw [interval, upper, zpow_eq_div, ← mul_div_assoc]
  simp only [Nat.pow_eq, Nat.cast_mul, Nat.cast_add, Nat.cast_pow, Nat.cast_ofNat]

/-- Comparing numerators is comparing fractions. -/
theorem Interval.holds_iff (hi : 0 < i.den) (hden : 0 < den) :
    i.holds num den = true ↔
      if i.closed then (i.low : ℚ) / i.den ≤ num / den ∧ (num : ℚ) / den ≤ i.high / i.den
      else (i.low : ℚ) / i.den < num / den ∧ (num : ℚ) / den < i.high / i.den := by
  have hi' : (0 : ℚ) < i.den := Nat.cast_pos.mpr hi
  have hden' : (0 : ℚ) < den := Nat.cast_pos.mpr hden
  unfold holds
  split
  · rw [Bool.and_eq_true, decide_eq_true_eq, decide_eq_true_eq, div_le_div_iff₀ hi' hden',
      div_le_div_iff₀ hden' hi']
    norm_cast
  · rw [Bool.and_eq_true, decide_eq_true_eq, decide_eq_true_eq, div_lt_div_iff₀ hi' hden',
      div_lt_div_iff₀ hden' hi']
    norm_cast

/-- A decimal is in the interval if it rounds to the double. -/
theorem holds_ratio_iff (h : x.significand ≠ 0) :
    x.interval.holds d.ratio.1 d.ratio.2 = true ↔ x.Covers d.value := by
  rw [Interval.holds_iff x.interval_den_pos d.ratio_pos, low_div h, high_div, d.ratio_div, Covers]
  simp only [interval, decide_eq_true_eq]

/-! ## What the search finds -/

theorem roundHalf_cases (hden : 0 < den) :
    roundHalf tie num den = num / den ∨ roundHalf tie num den = num / den + 1 := by
  cases tie with
  | even =>
    simp only [roundHalf, roundHalfEven]
    split
    · exact .inl rfl
    · split
      · exact .inr rfl
      · split
        · exact .inl rfl
        · exact .inr rfl
  | up =>
    have hsplit : num / den * den + num % den = num := by
      rw [Nat.mul_comm]
      exact Nat.div_add_mod num den
    have hrest := Nat.mod_lt num hden
    have htwice : num / den * (2 * den) = 2 * (num / den * den) := by ring
    by_cases hhalf : 2 * (num % den) < den
    · left
      refine Nat.div_eq_of_lt_le (by omega) ?_
      rw [Nat.add_mul, htwice]
      omega
    · right
      refine Nat.div_eq_of_lt_le ?_ ?_
      · rw [Nat.add_mul, htwice]
        omega
      · rw [Nat.add_mul, Nat.add_mul, htwice]
        omega

/-- A decimal found on a grid is in the interval. -/
theorem holds_of_onGrid? (hi : 0 < i.den) (h : onGrid? tie i scale = some d) :
    i.holds d.ratio.1 d.ratio.2 = true := by
  unfold onGrid? at h
  dsimp only at h
  split at h
  · cases h
  · cases h
    assumption
  · cases h
    assumption
  · cases h
    have hden : 0 < i.den * Nat.pow 10 scale.toNat := Nat.mul_pos hi (Nat.pow_pos (by decide))
    rcases @roundHalf_cases tie (i.mid * Nat.pow 10 (-scale).toNat) _ hden with hdown | hup
    · rw [hdown]
      assumption
    · rw [hup]
      assumption

/-- The greatest multiple of `10 ^ scale` that is not above the double. -/
def Interval.down (i : Interval) (scale : Int) : Decimal :=
  ⟨i.mid * Nat.pow 10 (-scale).toNat / (i.den * Nat.pow 10 scale.toNat), scale⟩

/-- A grid is not passed over if the multiple below the double is in the interval. -/
theorem onGrid?_isSome (h : i.holds (i.down scale).ratio.1 (i.down scale).ratio.2 = true) :
    (onGrid? tie i scale).isSome := by
  unfold onGrid?
  dsimp only
  rw [Interval.down] at h
  rw [h]
  split
  · contradiction
  · rfl
  · contradiction
  · rfl

theorem holds_firstGrid (hi : 0 < i.den)
    (h : ∃ k < tries, (onGrid? tie i (scale - k)).isSome) :
    i.holds (firstGrid tie i tries scale).ratio.1 (firstGrid tie i tries scale).ratio.2 = true := by
  induction tries generalizing scale with
  | zero =>
    obtain ⟨k, hk, -⟩ := h
    cases hk
  | succ tries ih =>
    rw [firstGrid]
    cases hgrid : onGrid? tie i scale with
    | some d => exact holds_of_onGrid? hi hgrid
    | none =>
      obtain ⟨k, hk, hfound⟩ := h
      cases k with
      | zero =>
        rw [Nat.cast_zero, sub_zero, hgrid] at hfound
        cases hfound
      | succ k =>
        refine ih ⟨k, by omega, ?_⟩
        rwa [Nat.cast_succ, add_comm, ← sub_sub] at hfound

/-- Dropping zeros keeps what the decimal stands for. -/
theorem value_strip (tries : Nat) (d : Decimal) : (d.strip tries).value = d.value := by
  induction tries generalizing d with
  | zero => rfl
  | succ tries ih =>
    rw [Decimal.strip]
    split
    · rename_i hzero
      rw [ih, Decimal.value, Decimal.value, zpow_add_one₀ (by norm_num)]
      have hdigits : (d.digits : ℚ) = (d.digits / 10 : Nat) * 10 := by
        have := Nat.div_mul_cancel (Nat.dvd_of_mod_eq_zero hzero.2)
        exact_mod_cast this.symm
      rw [hdigits]
      ring
    · rfl

/-! ## Seventeen digits are enough -/

theorem digits_down : (x.interval.down scale).digits = ⌊x.size / 10 ^ scale⌋₊ := by
  have hfraction : ((x.interval.mid * Nat.pow 10 (-scale).toNat : Nat) : ℚ) /
      (x.interval.den * Nat.pow 10 scale.toNat : Nat) = x.size / 10 ^ scale := by
    rw [← mid_div, zpow_eq_div]
    simp only [Nat.pow_eq, Nat.cast_mul, Nat.cast_pow, Nat.cast_ofNat]
    field_simp
  rw [← hfraction, Nat.floor_div_eq_div]
  rfl

/-- The multiple below a double is less than one step below it. -/
theorem value_down : (x.interval.down scale).value ≤ x.size ∧
    x.size < (x.interval.down scale).value + 10 ^ scale := by
  have hstep : (0 : ℚ) < 10 ^ scale := by positivity
  have hsize : 0 ≤ x.size := by
    unfold size
    positivity
  have hscale : (x.interval.down scale).scale = scale := rfl
  rw [Decimal.value, hscale, digits_down]
  constructor
  · exact (le_div_iff₀ hstep).mp (Nat.floor_le (by positivity))
  · rw [← add_one_mul]
    exact (div_lt_iff₀ hstep).mp (Nat.lt_floor_add_one _)

theorem significand_lt (x : Binary64) : x.significand < 2 ^ 53 := by
  have hfraction : x.fraction < 2 ^ 52 := Nat.mod_lt _ (by decide)
  unfold significand
  rw [Nat.pow_eq]
  split <;> omega

/-- A double has at most fifty-three bits: the distance to the lower end of its interval is no
less than the `2 ^ 54`th part of it. -/
theorem size_le : x.size ≤ 2 ^ 54 * (x.size - x.lower) := by
  have hbits : 4 * x.significand ≤ 2 ^ 54 * x.below := by
    have hlt := x.significand_lt
    unfold below
    split
    · rename_i hpower
      rw [hpower.1, Nat.pow_eq]
      omega
    · omega
  have hbits' : (4 * x.significand : ℚ) ≤ 2 ^ 54 * x.below := by exact_mod_cast hbits
  calc x.size ≤ 2 ^ 54 * x.below * 2 ^ (x.exponent - 2) := by
        unfold size
        gcongr
    _ = 2 ^ 54 * (x.size - x.lower) := by
        unfold size lower
        ring

theorem size_lt_upper : x.size < x.upper := by
  have hunit : (0 : ℚ) < 2 ^ (x.exponent - 2) := by positivity
  unfold size upper
  gcongr
  linarith

/-- A step that is smaller than the distance to the lower end does not leave the interval. -/
theorem covers_down (h : 10 ^ scale < x.size - x.lower) :
    x.Covers (x.interval.down scale).value := by
  obtain ⟨hle, hlt⟩ := @value_down x scale
  have hlower : x.lower < (x.interval.down scale).value := by linarith
  have hupper : (x.interval.down scale).value < x.upper := hle.trans_lt size_lt_upper
  unfold Covers
  split
  · exact ⟨hlower.le, hupper.le⟩
  · exact ⟨hlower, hupper⟩

theorem lt_pow_decimalWidth (n : Nat) : n < 10 ^ decimalWidth n :=
  (Nat.length_toDigits_le_iff (by decide) Nat.length_toDigits_pos).mp le_rfl

theorem pow_decimalWidth_le (h : n ≠ 0) : 10 ^ (decimalWidth n - 1) ≤ n := by
  have hwidth : 0 < decimalWidth n := Nat.length_toDigits_pos
  by_contra! hlt
  by_cases hone : decimalWidth n = 1
  · rw [hone] at hlt
    omega
  · have hle : decimalWidth n ≤ decimalWidth n - 1 :=
      (Nat.length_toDigits_le_iff (by decide) (by omega)).mpr hlt
    omega

/-- The leading digit of a fraction is at the leading power of ten or above. -/
theorem leadingPower_le (hnum : 0 < num) (hden : 0 < den) :
    (10 : ℚ) ^ leadingPower num den ≤ num / den := by
  have hnum' : (0 : ℚ) < num := Nat.cast_pos.mpr hnum
  have hden' : (0 : ℚ) < den := Nat.cast_pos.mpr hden
  unfold leadingPower
  split
  · rename_i hle
    have hwidth : 0 < decimalWidth (num / den) := Nat.length_toDigits_pos
    have hpow := pow_decimalWidth_le (Nat.div_pos hle hden).ne'
    have hexponent : (decimalWidth (num / den) : Int) - 1 =
        (decimalWidth (num / den) - 1 : Nat) := by
      omega
    rw [hexponent, zpow_natCast]
    calc (10 : ℚ) ^ (decimalWidth (num / den) - 1) ≤ (num / den : Nat) := by exact_mod_cast hpow
      _ ≤ num / den := Nat.cast_div_le
  · have hpow := lt_pow_decimalWidth (den / num)
    rw [Nat.div_lt_iff_lt_mul hnum] at hpow
    have hwidth : 0 < decimalWidth (den / num) := Nat.length_toDigits_pos
    dsimp only
    split
    · rename_i hle
      have hexponent : -(decimalWidth (den / num) : Int) + 1 =
          -((decimalWidth (den / num) - 1 : Nat) : Int) := by omega
      have hexponent' : (- -(decimalWidth (den / num) : Int) - 1).toNat =
          decimalWidth (den / num) - 1 := by omega
      rw [hexponent, zpow_neg, zpow_natCast, inv_le_comm₀ (by positivity) (by positivity), inv_div,
        div_le_iff₀ hnum']
      rw [hexponent', Nat.pow_eq] at hle
      exact_mod_cast hle
    · rw [zpow_neg, zpow_natCast, inv_le_comm₀ (by positivity) (by positivity), inv_div,
        div_le_iff₀ hnum']
      exact_mod_cast hpow.le

/-- Seventeen digits after the leading one make a step that does not leave the interval. -/
theorem step_lt (h : x.significand ≠ 0) :
    (10 : ℚ) ^ (leadingPower x.interval.mid x.interval.den - 17) < x.size - x.lower := by
  have hmid : 0 < x.interval.mid :=
    Nat.mul_pos (by omega) (Nat.pow_pos (by decide))
  have hlead := leadingPower_le hmid x.interval_den_pos
  rw [mid_div] at hlead
  have hsize : 0 < x.size := lt_of_lt_of_le (by positivity) hlead
  have hgap : 0 < x.size - x.lower := by
    have := x.size_le
    linarith
  calc (10 : ℚ) ^ (leadingPower x.interval.mid x.interval.den - 17)
      = 10 ^ leadingPower x.interval.mid x.interval.den / 10 ^ 17 := by
        rw [zpow_sub₀ (by norm_num)]
        rfl
    _ ≤ 2 ^ 54 * (x.size - x.lower) / 10 ^ 17 := by
        gcongr
        exact hlead.trans x.size_le
    _ < x.size - x.lower := by linarith

theorem covers_zero (h : x.significand = 0) : x.Covers 0 := by
  have hunit : (0 : ℚ) < 2 ^ (x.exponent - 2) := by positivity
  have hbelow : (0 : ℚ) ≤ x.below := Nat.cast_nonneg _
  rw [Covers, lower, upper, h, if_pos (Nat.zero_mod 2), Nat.cast_zero]
  constructor
  · nlinarith
  · linarith

/-- **The shortest decimal rounds to its double.** -/
theorem covers_shortest (tie : Tie) (x : Binary64) : x.Covers (x.shortest tie).value := by
  unfold shortest
  split
  · rename_i hzero
    have hvalue : (⟨0, 0⟩ : Decimal).value = 0 := by simp [Decimal.value]
    rw [hvalue]
    exact covers_zero hzero
  · rename_i hpositive
    rw [value_strip, ← holds_ratio_iff hpositive]
    refine holds_firstGrid x.interval_den_pos ⟨17, by decide, onGrid?_isSome ?_⟩
    rw [holds_ratio_iff hpositive]
    exact covers_down (step_lt hpositive)

end ClusterOperator.Binary64
