import ClusterOperator.Binary64.Shortest
import Mathlib.Algebra.Order.Field.Power
import Mathlib.Data.Rat.Cast.Defs
import Mathlib.Algebra.Order.Field.Rat
import Mathlib.Tactic.FieldSimp
import Mathlib.Tactic.Linarith
import Mathlib.Tactic.NormNum
import Mathlib.Tactic.Positivity
import Mathlib.Tactic.Ring

/-!
# Where the doubles lie

Below the sign a double is a natural number, its **magnitude**, and doubles are ordered as
their magnitudes are.  The reals that round to a double form an interval; where it ends the
interval of the next double begins (`lower_next`), and of two neighbours at most one contains
that common end, because one of the two has an odd significand.  So no real rounds to two
doubles of different magnitudes (`magnitude_eq_of_covers`).
-/

namespace ClusterOperator.Binary64

variable {x y : Binary64} {v : ℚ}

/-- The bits below the sign. -/
def magnitude (x : Binary64) : Nat := x.bits % Nat.pow 2 63

theorem exponentField_eq : x.exponentField = x.magnitude / Nat.pow 2 52 := by
  have h := Nat.mod_mul_right_div_self x.bits (Nat.pow 2 52) (Nat.pow 2 11)
  exact h.symm

theorem fraction_eq : x.fraction = x.magnitude % Nat.pow 2 52 :=
  (Nat.mod_mod_of_dvd x.bits (by decide)).symm

/-- How many fourths of the last place lie between a double and the lower end of its interval:
two, or one at a power of two, below which the doubles lie twice as close. -/
def below (x : Binary64) : Nat :=
  if x.significand = Nat.pow 2 52 ∧ x.exponent ≠ -1074 then 1 else 2

/-- The lower end of the interval of a double. -/
def lower (x : Binary64) : ℚ := (4 * x.significand - x.below) * 2 ^ (x.exponent - 2)

/-- The upper end. -/
def upper (x : Binary64) : ℚ := (4 * x.significand + 2) * 2 ^ (x.exponent - 2)

/-- The real rounds to the double, up to the sign. -/
def Covers (x : Binary64) (v : ℚ) : Prop :=
  if x.significand % 2 = 0 then x.lower ≤ v ∧ v ≤ x.upper else x.lower < v ∧ v < x.upper

theorem Covers.le (h : x.Covers v) : x.lower ≤ v ∧ v ≤ x.upper := by
  unfold Covers at h
  split at h
  · exact h
  · exact ⟨h.1.le, h.2.le⟩

theorem Covers.lt (h : x.Covers v) (odd : x.significand % 2 ≠ 0) : x.lower < v ∧ v < x.upper := by
  unfold Covers at h
  rwa [if_neg odd] at h

theorem lower_lt_upper (x : Binary64) : x.lower < x.upper := by
  have hunit : (0 : ℚ) < 2 ^ (x.exponent - 2) := by positivity
  have hbelow : (0 : ℚ) < x.below := by
    unfold below
    split <;> norm_num
  unfold lower upper
  gcongr
  linarith

theorem significand_mod_two : x.significand % 2 = x.magnitude % 2 := by
  unfold significand
  rw [fraction_eq, Nat.pow_eq]
  split <;> omega

/-- What the next magnitude does to significand and exponent: one more in the last place, or
the first significand of the next exponent. -/
theorem next_cases (h : y.magnitude = x.magnitude + 1) :
    (y.significand = x.significand + 1 ∧ y.exponent = x.exponent ∧ y.below = 2) ∨
      (x.significand = 2 ^ 53 - 1 ∧ y.significand = 2 ^ 52 ∧ y.exponent = x.exponent + 1 ∧
        y.below = 1) := by
  unfold below significand exponent
  rw [exponentField_eq, exponentField_eq, fraction_eq, fraction_eq, h, Nat.pow_eq]
  by_cases hcarry : x.magnitude % 2 ^ 52 + 1 = 2 ^ 52
  · have hfield : (x.magnitude + 1) / 2 ^ 52 = x.magnitude / 2 ^ 52 + 1 := by omega
    have hfraction : (x.magnitude + 1) % 2 ^ 52 = 0 := by omega
    rw [hfield, hfraction]
    by_cases hsmall : x.magnitude / 2 ^ 52 = 0
    · left
      rw [hsmall]
      exact ⟨hcarry.symm, rfl, rfl⟩
    · right
      have hnormal : x.magnitude / 2 ^ 52 + 1 ≠ 0 := by omega
      rw [if_neg hsmall, if_neg hsmall, if_neg hnormal, if_neg hnormal]
      refine ⟨by omega, rfl, by omega, if_pos ⟨rfl, by omega⟩⟩
  · left
    have hfield : (x.magnitude + 1) / 2 ^ 52 = x.magnitude / 2 ^ 52 := by omega
    have hfraction : (x.magnitude + 1) % 2 ^ 52 = x.magnitude % 2 ^ 52 + 1 := by omega
    rw [hfield, hfraction]
    refine ⟨?_, rfl, ?_⟩
    · split <;> omega
    · refine if_neg fun hpower => ?_
      split at hpower <;> omega

/-- **Where the interval of a double ends, that of the next one begins.** -/
theorem lower_next (h : y.magnitude = x.magnitude + 1) : y.lower = x.upper := by
  unfold lower upper
  rcases next_cases h with ⟨hsignificand, hexponent, hbelow⟩ |
    ⟨hlast, hsignificand, hexponent, hbelow⟩
  · rw [hsignificand, hexponent, hbelow]
    push_cast
    ring
  · have hunit : (2 : ℚ) ^ (x.exponent + 1 - 2) = 2 ^ (x.exponent - 2) * 2 := by
      rw [← zpow_add_one₀ (by norm_num), sub_add_eq_add_sub]
    rw [hlast, hsignificand, hexponent, hbelow, hunit]
    push_cast
    ring

/-- The double of a magnitude. -/
theorem magnitude_mk {n : Nat} (h : n < 2 ^ 63) : (⟨n⟩ : Binary64).magnitude = n :=
  Nat.mod_eq_of_lt h

theorem magnitude_lt (x : Binary64) : x.magnitude < 2 ^ 63 :=
  Nat.mod_lt _ (by decide)

/-- The interval of a double ends before that of a greater one begins, with a gap if there is
another double between the two. -/
theorem upper_le_lower {k : Nat} (h : y.magnitude = x.magnitude + 1 + k) :
    x.upper ≤ y.lower ∧ (0 < k → x.upper < y.lower) := by
  induction k generalizing y with
  | zero =>
    rw [lower_next h]
    exact ⟨le_refl _, nofun⟩
  | succ k ih =>
    have hbound := y.magnitude_lt
    obtain ⟨z, hz⟩ : ∃ z : Binary64, z.magnitude = x.magnitude + 1 + k :=
      ⟨⟨x.magnitude + 1 + k⟩, magnitude_mk (by omega)⟩
    have hgap : x.upper < y.lower :=
      calc x.upper ≤ z.lower := (ih hz).1
        _ < z.upper := z.lower_lt_upper
        _ = y.lower := (lower_next (by omega)).symm
    exact ⟨hgap.le, fun _ => hgap⟩

theorem le_of_covers (hx : x.Covers v) (hy : y.Covers v) : y.magnitude ≤ x.magnitude := by
  by_contra! hlt
  obtain ⟨k, hk⟩ := Nat.exists_eq_add_of_le (Nat.succ_le_of_lt hlt)
  obtain ⟨hle, hgap⟩ := upper_le_lower hk
  -- Both intervals would contain the end that they have in common.
  have hend : x.upper = v ∧ y.lower = v :=
    ⟨le_antisymm (hle.trans hy.le.1) hx.le.2, le_antisymm hy.le.1 (hx.le.2.trans hle)⟩
  have hxeven : x.magnitude % 2 = 0 := by
    by_contra hodd
    exact (hx.lt (significand_mod_two ▸ hodd)).2.ne hend.1.symm
  have hyeven : y.magnitude % 2 = 0 := by
    by_contra hodd
    exact (hy.lt (significand_mod_two ▸ hodd)).1.ne hend.2
  exact (hgap (by omega)).ne (hend.1.trans hend.2.symm)

/-- **No real rounds to two doubles** of different magnitudes. -/
theorem magnitude_eq_of_covers (hx : x.Covers v) (hy : y.Covers v) :
    x.magnitude = y.magnitude :=
  le_antisymm (le_of_covers hy hx) (le_of_covers hx hy)

end ClusterOperator.Binary64
