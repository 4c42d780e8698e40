import GatewayCheck.Decimal
import Mathlib.Algebra.Order.Field.Power
import Mathlib.Data.Int.Log
import Mathlib.Data.Rat.Floor
import Mathlib.Tactic.FieldSimp
import Mathlib.Tactic.Linarith
import Mathlib.Tactic.NormNum
import Mathlib.Tactic.Positivity
import Mathlib.Tactic.Ring

/-!
Rounding to floating-point numbers. The points between two ends around a number are rounded to it,
and rounding has no other results than numbers in their canonical form.
-/
namespace GatewayCheck

namespace Binary64

variable {numerator denominator : Nat}

/-! ### Scales -/

/-- The first of two sides is multiplied by a power, or the second one by its inverse. -/
def weigh (base : Nat) (power : Int) (sides : Nat × Nat) : Nat × Nat :=
  if 0 ≤ power then (sides.1 * Nat.pow base power.toNat, sides.2)
  else (sides.1, sides.2 * Nat.pow base (-power).toNat)

/-- Weighing multiplies the ratio of the sides by the power. -/
theorem weigh_eq {base : Nat} (positive : 0 < base) (power : Int) (sides : Nat × Nat) :
    ∃ factor : ℚ, 0 < factor ∧ ((weigh base power sides).1 : ℚ) = sides.1 * base ^ power * factor ∧
      ((weigh base power sides).2 : ℚ) = sides.2 * factor := by
  unfold weigh
  split_ifs with sign
  · obtain ⟨places, rfl⟩ := Int.eq_ofNat_of_zero_le sign
    exact ⟨1, one_pos, by simp, by simp⟩
  · obtain ⟨places, rfl⟩ := Int.exists_eq_neg_ofNat (Int.le_of_not_le sign)
    have some : (base : ℚ) ≠ 0 := Nat.cast_ne_zero.2 positive.ne'
    exact ⟨base ^ places, by positivity, by simp [some], by simp⟩

/-! ### Exponents -/

/-- Scaling divides by a power of two. -/
theorem scaled_eq (positive : 0 < denominator) (exponent : Int) :
    0 < (scaled numerator denominator exponent).2 ∧
      ((scaled numerator denominator exponent).1 : ℚ) / (scaled numerator denominator exponent).2 =
        (numerator : ℚ) / denominator / 2 ^ exponent := by
  have weighs : scaled numerator denominator exponent =
      (weigh 2 exponent (denominator, numerator)).swap := by
    unfold scaled weigh
    split_ifs <;> rfl
  obtain ⟨factor, some, bottom, top⟩ := weigh_eq two_pos exponent (denominator, numerator)
  have below : (0 : ℚ) < denominator := Nat.cast_pos.2 positive
  rw [weighs, Prod.fst_swap, Prod.snd_swap, top, bottom]
  constructor
  · rw [← Nat.cast_pos (α := ℚ), bottom]
    push_cast
    positivity
  · push_cast
    field_simp

/-- The whole part of a scaled quotient is compared as the quotient itself. -/
theorem le_scaled_div (positive : 0 < denominator) (exponent : Int) (bound : Nat) :
    bound ≤ (scaled numerator denominator exponent).1 / (scaled numerator denominator exponent).2 ↔
      (bound : ℚ) ≤ (numerator : ℚ) / denominator / 2 ^ exponent := by
  obtain ⟨below, value⟩ := @scaled_eq numerator denominator positive exponent
  rw [Nat.le_div_iff_mul_le below, ← value, le_div_iff₀ (Nat.cast_pos.2 below)]
  exact_mod_cast Iff.rfl

/-- The logarithm of a positive whole number bounds it on both sides. -/
theorem two_pow_log2 (above : 0 < numerator) :
    (2 : ℚ) ^ (numerator.log2 : ℤ) ≤ numerator ∧ (numerator : ℚ) < 2 ^ ((numerator.log2 : ℤ) + 1) := by
  constructor
  · rw [zpow_natCast]
    exact_mod_cast Nat.log2_self_le above.ne'
  · have := @Nat.lt_log2_self numerator
    rw [← Nat.cast_succ, zpow_natCast]
    exact_mod_cast this

/-- The logarithms of two whole numbers bound their quotient from below. -/
theorem two_pow_lt_div (above : 0 < numerator) (positive : 0 < denominator) :
    (2 : ℚ) ^ ((numerator.log2 : ℤ) - denominator.log2 - 1) < (numerator : ℚ) / denominator := by
  obtain ⟨topLow, -⟩ := two_pow_log2 above
  obtain ⟨-, bottomHigh⟩ := two_pow_log2 positive
  have bottomPositive : (0 : ℚ) < denominator := Nat.cast_pos.2 positive
  rw [lt_div_iff₀ bottomPositive]
  calc (2 : ℚ) ^ ((numerator.log2 : ℤ) - denominator.log2 - 1) * denominator
      < 2 ^ ((numerator.log2 : ℤ) - denominator.log2 - 1) * 2 ^ ((denominator.log2 : ℤ) + 1) := by
        gcongr
    _ = 2 ^ (numerator.log2 : ℤ) := by
        rw [← zpow_add₀ two_ne_zero]
        congr 1
        ring
    _ ≤ numerator := topLow

/-- The logarithms of two whole numbers bound their quotient from above. -/
theorem div_lt_two_pow (above : 0 < numerator) (positive : 0 < denominator) :
    (numerator : ℚ) / denominator < 2 ^ ((numerator.log2 : ℤ) - denominator.log2 + 1) := by
  obtain ⟨-, topHigh⟩ := two_pow_log2 above
  obtain ⟨bottomLow, -⟩ := two_pow_log2 positive
  have bottomPositive : (0 : ℚ) < denominator := Nat.cast_pos.2 positive
  rw [div_lt_iff₀ bottomPositive]
  calc (numerator : ℚ) < 2 ^ ((numerator.log2 : ℤ) + 1) := topHigh
    _ = 2 ^ ((numerator.log2 : ℤ) - denominator.log2 + 1) * 2 ^ (denominator.log2 : ℤ) := by
        rw [← zpow_add₀ two_ne_zero]
        congr 1
        ring
    _ ≤ 2 ^ ((numerator.log2 : ℤ) - denominator.log2 + 1) * denominator := by gcongr

/-- The exponent of a quotient gives it a significand of 53 bits, if that is not too small. -/
theorem exponentOf_eq (above : 0 < numerator) (positive : 0 < denominator) :
    exponentOf numerator denominator =
      max leastExponent (Int.log 2 ((numerator : ℚ) / denominator) - 52) := by
  have point : (0 : ℚ) < (numerator : ℚ) / denominator :=
    div_pos (Nat.cast_pos.2 above) (Nat.cast_pos.2 positive)
  have logLow := (Int.zpow_le_iff_le_log (b := 2) (by decide) point).1
    (two_pow_lt_div above positive).le
  have logHigh := (Int.lt_zpow_iff_log_lt (b := 2) (by decide) point).1
    (div_lt_two_pow above positive)
  set lower : ℤ := (numerator.log2 : ℤ) - denominator.log2 - 53 with lower_eq
  have full : Nat.pow 2 53 ≤
      (scaled numerator denominator lower).1 / (scaled numerator denominator lower).2 ↔
        lower + 53 ≤ Int.log 2 ((numerator : ℚ) / denominator) := by
    rw [le_scaled_div positive, le_div_iff₀ (by positivity),
      ← Int.zpow_le_iff_le_log (b := 2) (by decide) point, add_comm lower, zpow_add₀ (by norm_num)]
    norm_num
  unfold exponentOf
  simp only [← lower_eq, full]
  split_ifs with large
  · congr 1
    omega
  · congr 1
    omega

/-! ### Significands -/

/-- A quotient within half a step of a whole number is rounded to it, if the number is even or the
quotient is not on an end. Here the sides are whole numbers. -/
theorem nearest_of_le (positive : 0 < denominator) {significand : Nat}
    (low : 2 * significand * denominator ≤ 2 * numerator + denominator)
    (high : 2 * numerator ≤ 2 * significand * denominator + denominator)
    (inside : significand % 2 = 0 ∨ 2 * significand * denominator < 2 * numerator + denominator ∧
      2 * numerator < 2 * significand * denominator + denominator) :
    nearest numerator denominator = significand := by
  have parts := Nat.div_add_mod numerator denominator
  have small := Nat.mod_lt numerator positive
  have atMost : significand < numerator / denominator + 2 := by
    have : denominator * (2 * significand) < denominator * (2 * (numerator / denominator) + 3) := by
      linarith
    have := Nat.lt_of_mul_lt_mul_left this
    omega
  have atLeast : numerator / denominator < significand + 1 := by
    have whole := Nat.mul_div_le numerator denominator
    have : denominator * (2 * (numerator / denominator)) < denominator * (2 * significand + 2) := by
      linarith
    have := Nat.lt_of_mul_lt_mul_left this
    omega
  have cases : significand = numerator / denominator ∨
      significand = numerator / denominator + 1 := by omega
  unfold nearest
  generalize numerator / denominator = quotient at parts cases
  generalize numerator % denominator = rest at parts small
  obtain rfl | rfl := cases
  · have scale : 2 * significand * denominator = 2 * (denominator * significand) := by ring
    dsimp only
    split_ifs <;> omega
  · have scale : 2 * (quotient + 1) * denominator = 2 * (denominator * quotient) + 2 * denominator := by
      ring
    dsimp only
    split_ifs <;> omega

/-- A point within half a step of a whole number is rounded to it, if the number is even or the
point is not on an end. -/
theorem nearest_eq (positive : 0 < denominator) {significand : Nat}
    (low : (significand : ℚ) - 1 / 2 ≤ (numerator : ℚ) / denominator)
    (high : (numerator : ℚ) / denominator ≤ significand + 1 / 2)
    (inside : significand % 2 = 0 ∨ (significand : ℚ) - 1 / 2 < (numerator : ℚ) / denominator ∧
      (numerator : ℚ) / denominator < significand + 1 / 2) :
    nearest numerator denominator = significand := by
  have below : (0 : ℚ) < denominator := Nat.cast_pos.2 positive
  rw [le_div_iff₀ below] at low
  rw [div_le_iff₀ below] at high
  rw [lt_div_iff₀ below, div_lt_iff₀ below] at inside
  have lowWhole : (2 * significand * denominator : ℚ) ≤ 2 * numerator + denominator := by linarith
  have highWhole : (2 * numerator : ℚ) ≤ 2 * significand * denominator + denominator := by linarith
  refine nearest_of_le positive (by exact_mod_cast lowWhole) (by exact_mod_cast highWhole) ?_
  refine inside.imp_right fun ⟨low, high⟩ => ?_
  have lowStrict : (2 * significand * denominator : ℚ) < 2 * numerator + denominator := by linarith
  have highStrict : (2 * numerator : ℚ) < 2 * significand * denominator + denominator := by linarith
  exact ⟨by exact_mod_cast lowStrict, by exact_mod_cast highStrict⟩

/-- Rounding does not go below a whole number. -/
theorem le_nearest (positive : 0 < denominator) {bound : Nat}
    (low : (bound : ℚ) ≤ (numerator : ℚ) / denominator) : bound ≤ nearest numerator denominator := by
  rw [le_div_iff₀ (Nat.cast_pos.2 positive)] at low
  have whole : bound ≤ numerator / denominator :=
    (Nat.le_div_iff_mul_le positive).2 (by exact_mod_cast low)
  unfold nearest
  dsimp only
  split_ifs <;> omega

/-- Rounding does not go beyond a whole number. -/
theorem nearest_le (positive : 0 < denominator) {bound : Nat}
    (high : (numerator : ℚ) / denominator < bound) : nearest numerator denominator ≤ bound := by
  rw [div_lt_iff₀ (Nat.cast_pos.2 positive)] at high
  have whole : numerator / denominator < bound :=
    (Nat.div_lt_iff_lt_mul positive).2 (by exact_mod_cast high)
  unfold nearest
  dsimp only
  split_ifs <;> omega

/-! ### Canonical numbers -/

/-- The form of the numbers that rounding gives: a significand has 53 bits, or fewer at the least
exponent. -/
structure IsCanonical (number : Binary64) : Prop where
  narrow : number.significand < 2 ^ 53
  full : 2 ^ 52 ≤ number.significand ∨ number.exponent = leastExponent
  least : leastExponent ≤ number.exponent
  greatest : number.exponent ≤ greatestExponent

/-- Zero is canonical. -/
theorem isCanonical_zero (negative : Bool) : (zero negative).IsCanonical where
  narrow := Nat.two_pow_pos 53
  full := .inr rfl
  least := le_rfl
  greatest := show leastExponent ≤ greatestExponent by decide

/-- The number with a rounded significand, which can carry into the exponent. -/
def settled (negative : Bool) (significand : Nat) (exponent : Int) : Option Binary64 :=
  if significand = 2 ^ 53 then
    if greatestExponent < exponent + 1 then none else some ⟨negative, 2 ^ 52, exponent + 1⟩
  else if greatestExponent < exponent then none
  else if significand = 0 then some (zero negative)
  else some ⟨negative, significand, exponent⟩

/-- A settled number is canonical. -/
theorem isCanonical_settled {negative : Bool} {significand : Nat} {exponent : Int}
    {number : Binary64} (narrow : significand ≤ 2 ^ 53)
    (full : 2 ^ 52 ≤ significand ∨ exponent = leastExponent) (least : leastExponent ≤ exponent)
    (settles : settled negative significand exponent = some number) : number.IsCanonical := by
  unfold settled at settles
  split_ifs at settles with carries large large nothing
  · obtain rfl := Option.some.inj settles
    exact ⟨Nat.pow_lt_pow_right (by decide) (by decide), .inl le_rfl, Int.le_add_one least,
      not_lt.1 large⟩
  · obtain rfl := Option.some.inj settles
    exact isCanonical_zero negative
  · obtain rfl := Option.some.inj settles
    exact ⟨lt_of_le_of_ne narrow carries, full, least, not_lt.1 large⟩

/-! ### Quotients -/

/-- A quotient has a significand of 53 bits at its exponent, or of fewer at the least one. -/
theorem significand_between (above : 0 < numerator) (positive : 0 < denominator) :
    (numerator : ℚ) / denominator / 2 ^ exponentOf numerator denominator < 2 ^ 53 ∧
      (2 ^ 52 ≤ (numerator : ℚ) / denominator / 2 ^ exponentOf numerator denominator ∨
        exponentOf numerator denominator = leastExponent) := by
  have point : (0 : ℚ) < (numerator : ℚ) / denominator :=
    div_pos (Nat.cast_pos.2 above) (Nat.cast_pos.2 positive)
  rw [exponentOf_eq above positive]
  set power := Int.log 2 ((numerator : ℚ) / denominator) with power_eq
  constructor
  · have within : (numerator : ℚ) / denominator < 2 ^ (max leastExponent (power - 52) + 53) :=
      (Int.lt_zpow_iff_log_lt (b := 2) (by decide) point).2 (by omega)
    rw [div_lt_iff₀ (by positivity)]
    rwa [add_comm, zpow_add₀ two_ne_zero] at within
  · rcases le_total leastExponent (power - 52) with large | small
    · left
      have within : (2 : ℚ) ^ (max leastExponent (power - 52) + 52) ≤ (numerator : ℚ) / denominator :=
        (Int.zpow_le_iff_le_log (b := 2) (by decide) point).2 (by omega)
      rw [le_div_iff₀ (by positivity)]
      rwa [add_comm, zpow_add₀ two_ne_zero] at within
    · exact .inr (max_eq_left small)

/-- No other exponent gives a quotient such a significand. -/
theorem exponentOf_of_between (above : 0 < numerator) (positive : 0 < denominator) {exponent : Int}
    (least : leastExponent ≤ exponent) (narrow : (numerator : ℚ) / denominator / 2 ^ exponent < 2 ^ 53)
    (full : 2 ^ 52 ≤ (numerator : ℚ) / denominator / 2 ^ exponent ∨ exponent = leastExponent) :
    exponentOf numerator denominator = exponent := by
  have point : (0 : ℚ) < (numerator : ℚ) / denominator :=
    div_pos (Nat.cast_pos.2 above) (Nat.cast_pos.2 positive)
  have high : Int.log 2 ((numerator : ℚ) / denominator) < 53 + exponent := by
    refine (Int.lt_zpow_iff_log_lt (b := 2) (by decide) point).1 ?_
    rw [div_lt_iff₀ (by positivity)] at narrow
    rwa [zpow_add₀ (by norm_num)]
  have low : 52 + exponent ≤ Int.log 2 ((numerator : ℚ) / denominator) ∨
      exponent = leastExponent := by
    refine full.imp_left fun full => (Int.zpow_le_iff_le_log (b := 2) (by decide) point).1 ?_
    rw [le_div_iff₀ (by positivity)] at full
    rwa [zpow_add₀ (by norm_num)]
  rw [exponentOf_eq above positive]
  omega

/-- A positive quotient is scaled, rounded to a whole significand and settled. -/
theorem ofQuotient_eq (above : 0 < numerator) (negative : Bool) :
    ofQuotient negative numerator denominator =
      settled negative
        (nearest (scaled numerator denominator (exponentOf numerator denominator)).1
          (scaled numerator denominator (exponentOf numerator denominator)).2)
        (exponentOf numerator denominator) := by
  unfold ofQuotient settled
  rw [if_neg above.ne']
  generalize exponentOf numerator denominator = exponent
  generalize rounded : nearest _ _ = significand
  simp only [rounded, Nat.pow_eq]
  by_cases carries : significand = 2 ^ 53
  · rw [if_pos carries, if_pos carries]
    rfl
  · rw [if_neg carries, if_neg carries]

/-- A quotient is settled with the whole number near it at its exponent. -/
theorem ofQuotient_of_near (above : 0 < numerator) (positive : 0 < denominator) (negative : Bool)
    {exponent : Int} (least : leastExponent ≤ exponent)
    (narrow : (numerator : ℚ) / denominator / 2 ^ exponent < 2 ^ 53)
    (full : 2 ^ 52 ≤ (numerator : ℚ) / denominator / 2 ^ exponent ∨ exponent = leastExponent)
    {significand : Nat}
    (low : (significand : ℚ) - 1 / 2 ≤ (numerator : ℚ) / denominator / 2 ^ exponent)
    (high : (numerator : ℚ) / denominator / 2 ^ exponent ≤ significand + 1 / 2)
    (inside : significand % 2 = 0 ∨
      (significand : ℚ) - 1 / 2 < (numerator : ℚ) / denominator / 2 ^ exponent ∧
        (numerator : ℚ) / denominator / 2 ^ exponent < significand + 1 / 2) :
    ofQuotient negative numerator denominator = settled negative significand exponent := by
  obtain ⟨below, value⟩ := @scaled_eq numerator denominator positive exponent
  rw [← value] at low high inside
  rw [ofQuotient_eq above, exponentOf_of_between above positive least narrow full,
    nearest_eq below low high inside]

/-- Rounding a quotient gives a canonical number. -/
theorem isCanonical_ofQuotient {negative : Bool} {number : Binary64} (positive : 0 < denominator)
    (rounded : ofQuotient negative numerator denominator = some number) : number.IsCanonical := by
  rcases Nat.eq_zero_or_pos numerator with rfl | above
  · obtain rfl := Option.some.inj rounded
    exact isCanonical_zero negative
  · obtain ⟨narrow, full⟩ := significand_between above positive
    obtain ⟨below, value⟩ :=
      @scaled_eq numerator denominator positive (exponentOf numerator denominator)
    rw [← value] at narrow full
    rw [ofQuotient_eq above] at rounded
    refine isCanonical_settled (nearest_le below (by exact_mod_cast narrow))
      (full.imp_left fun full => le_nearest below (by exact_mod_cast full)) ?_ rounded
    rw [exponentOf_eq above positive]
    exact le_max_left _ _

/-! ### The points around a number -/

/-- How far below a number points are rounded to it, in units of its last place. The step below a
power of two is half as wide. -/
def reach (number : Binary64) : ℚ :=
  if number.significand = 2 ^ 52 ∧ leastExponent < number.exponent then 1 / 4 else 1 / 2

/-- A point lies between the ends around a number; the ends belong to an even significand. -/
structure Attracts (number : Binary64) (point : ℚ) : Prop where
  low : number.significand - number.reach ≤ point / 2 ^ number.exponent
  high : point / 2 ^ number.exponent ≤ number.significand + 1 / 2
  inside : number.significand % 2 = 0 ∨
    number.significand - number.reach < point / 2 ^ number.exponent ∧
      point / 2 ^ number.exponent < number.significand + 1 / 2

/-- The points strictly between the ends lie around any number. -/
theorem Attracts.of_lt {number : Binary64} {point : ℚ}
    (low : number.significand - number.reach < point / 2 ^ number.exponent)
    (high : point / 2 ^ number.exponent < number.significand + 1 / 2) : number.Attracts point :=
  ⟨low.le, high.le, .inr ⟨low, high⟩⟩

/-- A number reaches at most half a unit. -/
theorem reach_le (number : Binary64) : number.reach ≤ 1 / 2 := by
  unfold reach
  split_ifs <;> norm_num

/-- Only positive points lie around a number that is not zero. -/
theorem Attracts.pos {number : Binary64} {point : ℚ} (attracts : number.Attracts point)
    (some : 0 < number.significand) : 0 < point := by
  have one : (1 : ℚ) ≤ number.significand := by exact_mod_cast some
  have scaled : 0 < point / 2 ^ number.exponent := by
    linarith [attracts.low, number.reach_le]
  have unit : (0 : ℚ) < 2 ^ number.exponent := by positivity
  exact (div_pos_iff_of_pos_right unit).1 scaled

/-- A quotient around a canonical number is rounded to it. -/
theorem ofQuotient_of_attracts {number : Binary64} (canonical : number.IsCanonical)
    (some : 0 < number.significand) (positive : 0 < denominator)
    (attracts : number.Attracts ((numerator : ℚ) / denominator)) :
    ofQuotient number.negative numerator denominator = .some number := by
  have above : 0 < numerator := by
    have point := attracts.pos some
    rw [div_pos_iff_of_pos_right (Nat.cast_pos.2 positive)] at point
    exact Nat.cast_pos.1 point
  have narrow : (number.significand : ℚ) + 1 ≤ 2 ^ 53 := by exact_mod_cast canonical.narrow
  obtain ⟨low, high, inside⟩ := attracts
  have half := number.reach_le
  by_cases lower : (number.significand = 2 ^ 52 ∧ leastExponent < number.exponent) ∧
      (numerator : ℚ) / denominator / 2 ^ number.exponent < 2 ^ 52
  · -- The quotient lies below a power of two, where the numbers have the next smaller exponent.
    obtain ⟨⟨power, least⟩, small⟩ := lower
    have reaches : number.reach = 1 / 4 := if_pos ⟨power, least⟩
    rw [power, reaches] at low
    push_cast at low
    have twice : (numerator : ℚ) / denominator / 2 ^ (number.exponent - 1) =
        2 * ((numerator : ℚ) / denominator / 2 ^ number.exponent) := by
      rw [zpow_sub_one₀ two_ne_zero, div_mul_eq_div_div_swap]
      field_simp
    have carries : ofQuotient number.negative numerator denominator =
        settled number.negative (2 ^ 53) (number.exponent - 1) := by
      refine ofQuotient_of_near above positive number.negative (by omega) ?_ (.inl ?_) ?_ ?_ (.inl rfl)
      all_goals rw [twice]; push_cast; linarith
    rw [carries, settled, if_pos rfl, if_neg (by have := canonical.greatest; omega),
      sub_add_cancel, ← power]
  · have full : 2 ^ 52 ≤ (numerator : ℚ) / denominator / 2 ^ number.exponent ∨
        number.exponent = leastExponent := by
      refine (le_or_gt _ _).imp_right fun small => ?_
      rcases canonical.full with wide | least
      · have tight : ¬ 2 ^ 52 < number.significand := fun wider => by
          have : (2 : ℚ) ^ 52 + 1 ≤ number.significand := by exact_mod_cast wider
          linarith
        have least := canonical.least
        have : ¬ leastExponent < number.exponent := fun more => lower ⟨⟨by omega, more⟩, small⟩
        omega
      · exact least
    rw [ofQuotient_of_near above positive number.negative canonical.least (by linarith) full
        (by linarith) high (inside.imp_right fun inside => ⟨by linarith [inside.1], inside.2⟩),
      settled, if_neg canonical.narrow.ne, if_neg (not_lt.2 canonical.greatest), if_neg some.ne']

/-! ### Decimal numbers -/

/-- The digits of a positive whole number bound it on both sides. -/
theorem digitCount_bounds (above : 0 < numerator) :
    (10 : ℚ) ^ ((digitCount numerator : ℤ) - 1) ≤ numerator ∧
      (numerator : ℚ) < 10 ^ (digitCount numerator : ℤ) := by
  have count : 0 < digitCount numerator := Nat.length_toDigits_pos
  have fits {places : Nat} (some : 0 < places) :
      digitCount numerator ≤ places ↔ numerator < 10 ^ places :=
    Nat.length_toDigits_le_iff (by decide) some
  constructor
  · obtain ⟨others, equal⟩ : ∃ others, digitCount numerator = others + 1 :=
      Nat.exists_eq_add_one.2 count
    rw [equal, Nat.cast_succ, add_sub_cancel_right, zpow_natCast]
    rcases Nat.eq_zero_or_pos others with rfl | more
    · exact_mod_cast above
    · have least : 10 ^ others ≤ numerator := by
        rw [← not_lt, ← fits more]
        omega
      exact_mod_cast least
  · rw [zpow_natCast]
    exact_mod_cast (fits count).1 le_rfl

/-- The points around a number are less than the first power of ten beyond all numbers. -/
theorem Attracts.lt_power {number : Binary64} (canonical : number.IsCanonical) {point : ℚ}
    (attracts : number.Attracts point) : point < 10 ^ (309 : ℤ) := by
  have narrow : (number.significand : ℚ) + 1 ≤ 2 ^ 53 := by exact_mod_cast canonical.narrow
  have unit : (2 : ℚ) ^ number.exponent ≤ 2 ^ (971 : ℤ) :=
    zpow_le_zpow_right₀ one_le_two canonical.greatest
  have small : (2 : ℚ) ^ 53 * 2 ^ (971 : ℤ) < 10 ^ (309 : ℤ) := by
    have whole : 2 ^ 53 * 2 ^ 971 < 10 ^ 309 := by decide +kernel
    exact_mod_cast whole
  calc point = point / 2 ^ number.exponent * 2 ^ number.exponent := by field_simp
    _ ≤ 2 ^ 53 * 2 ^ (971 : ℤ) := by
        gcongr
        linarith [attracts.high]
    _ < 10 ^ (309 : ℤ) := small

/-- The points around a number that is not zero are greater than a small power of ten. -/
theorem Attracts.power_lt {number : Binary64} (canonical : number.IsCanonical)
    (some : 0 < number.significand) {point : ℚ} (attracts : number.Attracts point) :
    10 ^ (-330 : ℤ) < point := by
  have one : (1 : ℚ) ≤ number.significand := by exact_mod_cast some
  have unit : (2 : ℚ) ^ (-1074 : ℤ) ≤ 2 ^ number.exponent :=
    zpow_le_zpow_right₀ one_le_two canonical.least
  have small : (10 : ℚ) ^ (-330 : ℤ) < 1 / 2 * 2 ^ (-1074 : ℤ) := by
    have whole : 2 * 2 ^ 1074 < 10 ^ 330 := by decide +kernel
    have : (2 * 2 ^ 1074 : ℚ) < 10 ^ 330 := by exact_mod_cast whole
    rw [zpow_neg, zpow_neg, one_div, ← mul_inv]
    exact inv_strictAnti₀ (by positivity) (by exact_mod_cast this)
  have half : 1 / 2 ≤ point / 2 ^ number.exponent := by
    linarith [attracts.low, number.reach_le]
  calc (10 : ℚ) ^ (-330 : ℤ) < 1 / 2 * 2 ^ (-1074 : ℤ) := small
    _ ≤ point / 2 ^ number.exponent * 2 ^ number.exponent :=
        mul_le_mul half unit (by positivity) (by linarith)
    _ = point := by field_simp

/-- A decimal number around a canonical number is rounded to it. -/
theorem ofDecimal_of_attracts {number : Binary64} (canonical : number.IsCanonical)
    (some : 0 < number.significand) {digits : Nat} {power : Int}
    (attracts : number.Attracts (digits * 10 ^ power)) :
    ofDecimal number.negative digits power = .some number := by
  have above : 0 < digits := by
    have point := attracts.pos some
    rw [mul_pos_iff_of_pos_right (by positivity)] at point
    exact Nat.cast_pos.1 point
  obtain ⟨low, high⟩ := digitCount_bounds above
  have notLarge : ¬ 310 < (digitCount digits : ℤ) + power := by
    have between : (10 : ℚ) ^ ((digitCount digits : ℤ) - 1 + power) < 10 ^ (309 : ℤ) := by
      rw [zpow_add₀ (by norm_num)]
      exact lt_of_le_of_lt (by gcongr) (attracts.lt_power canonical)
    have := (zpow_lt_zpow_iff_right₀ (by norm_num)).1 between
    omega
  have notSmall : ¬ (digitCount digits : ℤ) + power < -330 := by
    have between : (10 : ℚ) ^ (-330 : ℤ) < 10 ^ ((digitCount digits : ℤ) + power) := by
      rw [zpow_add₀ (by norm_num)]
      exact lt_trans (attracts.power_lt canonical some) (by gcongr)
    have := (zpow_lt_zpow_iff_right₀ (by norm_num)).1 between
    omega
  unfold ofDecimal
  dsimp only
  rw [if_neg above.ne', if_neg notLarge, if_neg notSmall]
  split_ifs with sign
  · obtain ⟨places, rfl⟩ := Int.eq_ofNat_of_zero_le sign
    refine ofQuotient_of_attracts canonical some (by decide) ?_
    simpa using attracts
  · obtain ⟨places, rfl⟩ := Int.exists_eq_neg_ofNat (Int.le_of_not_le sign)
    refine ofQuotient_of_attracts canonical some (Nat.pow_pos (by decide)) ?_
    simpa [div_eq_mul_inv] using attracts

/-- Rounding a decimal number gives a canonical number. -/
theorem isCanonical_ofDecimal {negative : Bool} {digits : Nat} {power : Int} {number : Binary64}
    (rounded : ofDecimal negative digits power = some number) : number.IsCanonical := by
  unfold ofDecimal at rounded
  dsimp only at rounded
  split_ifs at rounded with nothing large small sign
  · obtain rfl := Option.some.inj rounded
    exact isCanonical_zero negative
  · obtain rfl := Option.some.inj rounded
    exact isCanonical_zero negative
  · exact isCanonical_ofQuotient (by decide) rounded
  · exact isCanonical_ofQuotient (Nat.pow_pos (by decide)) rounded

/-- A quotient that is less than the greatest power of two has a nearest number. -/
theorem exists_ofQuotient (negative : Bool) (positive : 0 < denominator)
    (small : (numerator : ℚ) / denominator < 2 ^ (1023 : ℤ)) :
    ∃ number, ofQuotient negative numerator denominator = some number := by
  rcases Nat.eq_zero_or_pos numerator with rfl | above
  · exact ⟨zero negative, rfl⟩
  · have point : (0 : ℚ) < (numerator : ℚ) / denominator :=
      div_pos (Nat.cast_pos.2 above) (Nat.cast_pos.2 positive)
    have power : Int.log 2 ((numerator : ℚ) / denominator) < 1023 :=
      (Int.lt_zpow_iff_log_lt (b := 2) (by decide) point).1 small
    have fits : exponentOf numerator denominator + 1 ≤ greatestExponent := by
      rw [exponentOf_eq above positive]
      unfold leastExponent greatestExponent
      omega
    rw [ofQuotient_eq above, settled]
    split_ifs with carries large large nothing
    · omega
    · exact ⟨_, rfl⟩
    · omega
    · exact ⟨_, rfl⟩
    · exact ⟨_, rfl⟩

/-- A whole number of 65 bits has a nearest number. -/
theorem exists_ofDecimal (negative : Bool) {number : Nat} (small : number < 2 ^ 65) :
    ∃ rounded, ofDecimal negative number 0 = some rounded := by
  have short : digitCount number ≤ 20 :=
    (Nat.length_toDigits_le_iff (by decide) (by decide)).2 (lt_trans small (by decide))
  unfold ofDecimal
  dsimp only
  rw [if_neg (c := 310 < _) (by omega), if_neg (c := _ < -330) (by omega), if_pos (le_refl 0)]
  split_ifs
  · exact ⟨_, rfl⟩
  · refine exists_ofQuotient negative (by decide) ?_
    have whole : (number : ℚ) < 2 ^ (65 : ℤ) := by exact_mod_cast small
    have wide : (2 : ℚ) ^ (65 : ℤ) < 2 ^ (1023 : ℤ) :=
      (zpow_lt_zpow_iff_right₀ one_lt_two).2 (by decide)
    simpa using lt_trans whole wide

end Binary64

end GatewayCheck
