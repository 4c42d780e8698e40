import GatewayCheck.Proofs.Number.Rounding

/-!
The shortest decimal text of a floating-point number is read back as the number: the search ends on
a point that is rounded to it, because the grid of seventeen digits is finer than the numbers are.
-/
namespace GatewayCheck

namespace Decimal

open Binary64

/-! ### Comparisons on a common scale -/

/-- The two sides of a comparison are multiplied by the same positive factor. -/
theorem onScale_eq (count : Nat) (power : Int) (number : Nat) (exponent : Int) :
    ∃ factor : ℚ, 0 < factor ∧
      ((onScale count power number exponent).1 : ℚ) = count * 10 ^ power * factor ∧
      ((onScale count power number exponent).2 : ℚ) = number * 2 ^ exponent * factor := by
  have weighs : onScale count power number exponent =
      (weigh 2 exponent (weigh 10 power (count, number)).swap).swap := by
    unfold onScale weigh
    split_ifs <;> rfl
  obtain ⟨tens, someTens, left, right⟩ := weigh_eq (show 0 < 10 by decide) power (count, number)
  obtain ⟨twos, someTwos, first, second⟩ :=
    weigh_eq two_pos exponent (weigh 10 power (count, number)).swap
  refine ⟨tens * twos, mul_pos someTens someTwos, ?_, ?_⟩
  · rw [weighs, Prod.fst_swap, second, Prod.snd_swap, left]
    push_cast
    ring
  · rw [weighs, Prod.snd_swap, first, Prod.fst_swap, right]
    push_cast
    ring

/-- Comparing on a common scale compares the numbers. -/
theorem onScale_le (count : Nat) (power : Int) (number : Nat) (exponent : Int) :
    (onScale count power number exponent).1 ≤ (onScale count power number exponent).2 ↔
      (count : ℚ) * 10 ^ power ≤ number * 2 ^ exponent := by
  obtain ⟨factor, positive, left, right⟩ := onScale_eq count power number exponent
  rw [← mul_le_mul_iff_left₀ positive, ← left, ← right]
  exact_mod_cast Iff.rfl

/-- Comparing on a common scale compares the numbers in the other order. -/
theorem le_onScale (count : Nat) (power : Int) (number : Nat) (exponent : Int) :
    (onScale count power number exponent).2 ≤ (onScale count power number exponent).1 ↔
      (number : ℚ) * 2 ^ exponent ≤ count * 10 ^ power := by
  obtain ⟨factor, positive, left, right⟩ := onScale_eq count power number exponent
  rw [← mul_le_mul_iff_left₀ positive, ← left, ← right]
  exact_mod_cast Iff.rfl

/-! ### Intervals -/

/-- The interval of a number has the ends around it, in quarters of its unit. -/
theorem interval_ends {number : Binary64} (some : 0 < number.significand) :
    ((interval number).lower : ℚ) * 2 ^ (interval number).exponent =
        (number.significand - number.reach) * 2 ^ number.exponent ∧
      ((interval number).upper : ℚ) * 2 ^ (interval number).exponent =
        (number.significand + 1 / 2) * 2 ^ number.exponent := by
  have unit : (2 : ℚ) ^ (interval number).exponent = 1 / 4 * 2 ^ number.exponent := by
    rw [interval, zpow_sub₀ two_ne_zero]
    ring
  have lower : ((interval number).lower : ℚ) = 4 * (number.significand - number.reach) := by
    simp only [interval, reach, Nat.pow_eq, Bool.and_eq_true, decide_eq_true_eq]
    split_ifs
    · rw [Nat.cast_sub (by omega)]
      push_cast
      ring
    · rw [Nat.cast_sub (by omega)]
      push_cast
      ring
  have upper : ((interval number).upper : ℚ) = 4 * (number.significand + 1 / 2) := by
    simp only [interval]
    push_cast
    ring
  rw [unit, lower, upper]
  constructor <;> ring

/-- The decimal points in the interval of a number are the ones around it. -/
theorem contains_iff {number : Binary64} (some : 0 < number.significand) (count : Nat)
    (power : Int) :
    (interval number).contains count power = true ↔ number.Attracts (count * 10 ^ power) := by
  obtain ⟨lower, upper⟩ := interval_ends some
  have unit : (0 : ℚ) < 2 ^ number.exponent := by positivity
  unfold Interval.contains
  have closed : (interval number).closed = (number.significand % 2 == 0) := rfl
  simp only [closed, beq_iff_eq]
  split_ifs with even
  · simp only [Bool.and_eq_true, decide_eq_true_eq, onScale_le, le_onScale, lower, upper,
      ← le_div_iff₀ unit, ← div_le_iff₀ unit]
    exact ⟨fun ⟨low, high⟩ => ⟨low, high, .inl even⟩, fun attracts => ⟨attracts.low, attracts.high⟩⟩
  · simp only [Bool.and_eq_true, decide_eq_true_eq, ← not_le, onScale_le, le_onScale, lower, upper]
    simp only [not_le, ← lt_div_iff₀ unit, ← div_lt_iff₀ unit]
    exact ⟨fun ⟨low, high⟩ => .of_lt low high, fun attracts => attracts.inside.resolve_left even⟩

/-! ### The power of the leading digit -/

/-- A power of ten is at most a power of two when their exponents keep a ratio just below the one of
the logarithms, and just above it for negative ones. -/
theorem ten_pow_le_two_pow {tens twos : ℤ} (above : 0 ≤ twos → 103 * tens ≤ 31 * twos)
    (below : twos < 0 → 93 * tens ≤ 28 * twos) : (10 : ℚ) ^ tens ≤ 2 ^ twos := by
  rcases lt_or_ge twos 0 with negative | nonnegative
  · obtain ⟨size, rfl⟩ := Int.exists_eq_neg_ofNat negative.le
    have bases : (2 : ℚ) ^ 93 ≤ 10 ^ 28 := by norm_num
    refine le_of_pow_le_pow_left₀ (n := 93) (by decide) (by positivity) ?_
    calc ((10 : ℚ) ^ tens) ^ 93 = 10 ^ (tens * 93) := by
          rw [zpow_mul]
          norm_cast
      _ ≤ 10 ^ (-(28 * size : ℤ)) := zpow_le_zpow_right₀ (by norm_num) (by have := below negative; omega)
      _ = (((10 : ℚ) ^ 28) ^ size)⁻¹ := by
          rw [zpow_neg, ← pow_mul]
          norm_cast
      _ ≤ (((2 : ℚ) ^ 93) ^ size)⁻¹ :=
          inv_anti₀ (by positivity) (pow_le_pow_left₀ (by positivity) bases size)
      _ = ((2 : ℚ) ^ (-size : ℤ)) ^ 93 := by
          rw [zpow_neg, zpow_natCast, inv_pow, ← pow_mul, ← pow_mul, mul_comm]
  · obtain ⟨size, rfl⟩ := Int.eq_ofNat_of_zero_le nonnegative
    have bases : (10 : ℚ) ^ 31 ≤ 2 ^ 103 := by norm_num
    refine le_of_pow_le_pow_left₀ (n := 103) (by decide) (by positivity) ?_
    calc ((10 : ℚ) ^ tens) ^ 103 = 10 ^ (tens * 103) := by
          rw [zpow_mul]
          norm_cast
      _ ≤ 10 ^ (31 * size : ℤ) := zpow_le_zpow_right₀ (by norm_num) (by have := above nonnegative; omega)
      _ = ((10 : ℚ) ^ 31) ^ size := by
          rw [← pow_mul]
          norm_cast
      _ ≤ ((2 : ℚ) ^ 103) ^ size := pow_le_pow_left₀ (by positivity) bases size
      _ = ((2 : ℚ) ^ (size : ℤ)) ^ 103 := by
          rw [zpow_natCast, ← pow_mul, ← pow_mul, mul_comm]

/-- The leading digit of a positive number has a power that it reaches. -/
theorem leadingPower_le {number : Binary64} (canonical : number.IsCanonical)
    (some : 0 < number.significand) :
    (10 : ℚ) ^ leadingPower number.significand number.exponent ≤
      number.significand * 2 ^ number.exponent := by
  have reached {power : Int} : (onScale 1 power number.significand number.exponent).1 ≤
      (onScale 1 power number.significand number.exponent).2 ↔
        (10 : ℚ) ^ power ≤ number.significand * 2 ^ number.exponent := by
    rw [onScale_le, Nat.cast_one, one_mul]
  unfold leadingPower
  simp only [decide_eq_true_eq, reached]
  split_ifs with more enough
  · exact more
  · exact enough
  · have wide : number.significand.log2 < 53 := (Nat.log2_lt some.ne').2 canonical.narrow
    have least := canonical.least
    have greatest := canonical.greatest
    unfold leastExponent at least
    unfold greatestExponent at greatest
    calc (10 : ℚ) ^ (((number.significand.log2 : ℤ) + number.exponent) * 1233 / 4096 - 1)
        ≤ 2 ^ ((number.significand.log2 : ℤ) + number.exponent) :=
          ten_pow_le_two_pow (by omega) (by omega)
      _ = 2 ^ (number.significand.log2 : ℤ) * 2 ^ number.exponent := zpow_add₀ two_ne_zero _ _
      _ ≤ number.significand * 2 ^ number.exponent := by
          gcongr
          exact (two_pow_log2 some).1

/-! ### Grids -/

/-- The quotient of the centre of an interval by a power of ten. -/
def Interval.quotient (range : Interval) (power : Int) : Nat × Nat :=
  weigh 2 range.exponent (weigh 10 power (1, range.centre)).swap

/-- The quotient of a centre is exact. -/
theorem Interval.quotient_eq (range : Interval) (power : Int) :
    0 < (range.quotient power).2 ∧
      ((range.quotient power).1 : ℚ) / (range.quotient power).2 =
        range.centre * 2 ^ range.exponent / 10 ^ power := by
  obtain ⟨tens, someTens, left, right⟩ := weigh_eq (show 0 < 10 by decide) power (1, range.centre)
  obtain ⟨twos, someTwos, top, bottom⟩ :=
    weigh_eq two_pos range.exponent (weigh 10 power (1, range.centre)).swap
  rw [Prod.fst_swap, right] at top
  rw [Prod.snd_swap, left] at bottom
  unfold Interval.quotient
  constructor
  · rw [← Nat.cast_pos (α := ℚ), bottom]
    push_cast
    positivity
  · rw [top, bottom]
    push_cast
    field_simp

/-- The quotient is made of whole powers. -/
theorem Interval.quotient_of_signs (range : Interval) (power : Int) :
    range.quotient power =
      let (top, bottom) :=
        if 0 ≤ power then (range.centre, Nat.pow 10 power.toNat)
        else (range.centre * Nat.pow 10 (-power).toNat, 1)
      if 0 ≤ range.exponent then (top * Nat.pow 2 range.exponent.toNat, bottom)
      else (top, bottom * Nat.pow 2 (-range.exponent).toNat) := by
  unfold Interval.quotient weigh
  by_cases up : 0 ≤ power
  · rw [if_pos up, if_pos up, Nat.one_mul]
    rfl
  · rw [if_neg up, if_neg up]
    rfl

/-- Of the two neighbours on a grid one is chosen that lies in the interval, if any does. -/
theorem Interval.nearestOnGrid_spec (range : Interval) (power : Int) :
    (∀ count, range.nearestOnGrid power = some count → range.contains count power = true) ∧
      (range.contains ((range.quotient power).1 / (range.quotient power).2) power = true ∨
          range.contains ((range.quotient power).1 / (range.quotient power).2 + 1) power = true →
        (range.nearestOnGrid power).isSome = true) := by
  have chosen : range.nearestOnGrid power =
      let below := (range.quotient power).1 / (range.quotient power).2
      let rest := (range.quotient power).1 % (range.quotient power).2
      if range.contains below power && range.contains (below + 1) power then
        if 2 * rest < (range.quotient power).2 then some below
        else if (range.quotient power).2 < 2 * rest then some (below + 1)
        else if below % 2 = 0 then some below else some (below + 1)
      else if range.contains below power then some below
      else if range.contains (below + 1) power then some (below + 1)
      else none := by
    rw [Interval.quotient_of_signs]
    rfl
  rw [chosen]
  generalize (range.quotient power).1 / (range.quotient power).2 = below
  generalize (range.quotient power).1 % (range.quotient power).2 = rest
  dsimp only
  cases low : range.contains below power <;> cases high : range.contains (below + 1) power
  · simp
  · simp [high]
  · simp [low]
  · simp only [Bool.and_self, if_true]
    split_ifs <;> simp [low, high]

/-- On a grid of seventeen digits a neighbour of a number lies in its interval: the step of the grid
is less than a unit of the number. -/
theorem neighbour_fits {number : Binary64} (canonical : number.IsCanonical)
    (some : 0 < number.significand) {power : Int}
    (fine : (10 : ℚ) ^ 16 * 10 ^ power ≤ number.significand * 2 ^ number.exponent) {below : Nat}
    (floor : (below : ℚ) * 10 ^ power ≤ number.significand * 2 ^ number.exponent)
    (next : (number.significand : ℚ) * 2 ^ number.exponent < (below + 1) * 10 ^ power) :
    (interval number).contains below power = true ∨
      (interval number).contains (below + 1) power = true := by
  have unit : (0 : ℚ) < 2 ^ number.exponent := by positivity
  have narrow : (number.significand : ℚ) + 1 ≤ 2 ^ 53 := by exact_mod_cast canonical.narrow
  rw [contains_iff some, contains_iff some, Nat.cast_succ]
  obtain ⟨step, scaled⟩ : ∃ step : ℚ, (10 : ℚ) ^ power = step * 2 ^ number.exponent :=
    ⟨10 ^ power / 2 ^ number.exponent, by field_simp⟩
  rw [scaled, ← mul_assoc, mul_le_mul_iff_left₀ unit] at fine floor
  rw [scaled, ← mul_assoc, mul_lt_mul_iff_left₀ unit] at next
  have low : (below : ℚ) * 10 ^ power / 2 ^ number.exponent = below * step := by
    rw [scaled]
    field_simp
  have high : ((below : ℚ) + 1) * 10 ^ power / 2 ^ number.exponent = (below + 1) * step := by
    rw [scaled]
    field_simp
  rcases lt_or_ge (((below : ℚ) + 1) * step) (number.significand + 1 / 2) with near | far
  · right
    have reaches : 0 < number.reach := by
      unfold reach
      split_ifs <;> norm_num
    apply Attracts.of_lt
    · rw [high]
      linarith
    · rw [high]
      exact near
  · left
    have reaches : number.reach = 1 / 2 := by
      unfold reach
      rw [if_neg]
      rintro ⟨power, -⟩
      rw [power] at fine floor far
      push_cast at fine floor far
      linarith
    apply Attracts.of_lt
    · rw [low, reaches]
      linarith
    · rw [low]
      linarith

/-! ### The search -/

/-- A search with enough digits ends in the interval. -/
theorem contains_search (range : Interval) (leading : Int) (remaining tried : Nat)
    (found : (range.nearestOnGrid (leading - (tried + remaining : Nat))).isSome = true) :
    range.contains (search range leading (remaining + 1) tried).digits
      (search range leading (remaining + 1) tried).exponent = true := by
  induction remaining generalizing tried with
  | zero =>
    obtain ⟨digits, equal⟩ := Option.isSome_iff_exists.1 found
    rw [Nat.add_zero] at equal
    rw [search, equal]
    exact (range.nearestOnGrid_spec _).1 digits equal
  | succ remaining ih =>
    rw [search]
    split
    · rename_i digits equal
      exact (range.nearestOnGrid_spec _).1 digits equal
    · refine ih (tried + 1) ?_
      rwa [Nat.add_right_comm]

/-- Removing zeros at the end keeps the value. -/
theorem trimmed_value (fuel : Nat) (decimal : Decimal) :
    ((trimmed fuel decimal).digits : ℚ) * 10 ^ (trimmed fuel decimal).exponent =
      decimal.digits * 10 ^ decimal.exponent := by
  induction fuel generalizing decimal with
  | zero => rfl
  | succ fuel ih =>
    rw [trimmed]
    split
    · rename_i zeros
      rw [Bool.and_eq_true, decide_eq_true_eq] at zeros
      have tenfold : decimal.digits / 10 * 10 = decimal.digits := by omega
      have cast : ((decimal.digits / 10 : Nat) : ℚ) * 10 = decimal.digits := by exact_mod_cast tenfold
      rw [ih, zpow_add_one₀ (by norm_num), ← cast]
      ring
    · rfl

/-- The neighbours of a number on a grid are on both sides of it. -/
theorem quotient_between (number : Binary64) (power : Int) :
    (((interval number).quotient power).1 / ((interval number).quotient power).2 : Nat) *
        (10 : ℚ) ^ power ≤ number.significand * 2 ^ number.exponent ∧
      (number.significand : ℚ) * 2 ^ number.exponent <
        ((((interval number).quotient power).1 / ((interval number).quotient power).2 : Nat) + 1) *
          10 ^ power := by
  obtain ⟨positive, value⟩ := (interval number).quotient_eq power
  have centre : ((interval number).centre : ℚ) * 2 ^ (interval number).exponent =
      number.significand * 2 ^ number.exponent := by
    simp only [interval]
    rw [zpow_sub₀ two_ne_zero]
    push_cast
    ring
  rw [centre] at value
  generalize (interval number).quotient power = parts at positive value
  have step : (0 : ℚ) < 10 ^ power := by positivity
  have below : (0 : ℚ) < parts.2 := Nat.cast_pos.2 positive
  rw [← le_div_iff₀ step, ← div_lt_iff₀ step, ← value]
  constructor
  · rw [le_div_iff₀ below, mul_comm]
    exact_mod_cast Nat.mul_div_le parts.1 parts.2
  · rw [div_lt_iff₀ below, mul_comm]
    exact_mod_cast Nat.lt_mul_div_succ parts.1 positive

/-- The shortest decimal of a number that is not zero lies around it. -/
theorem attracts_shortest {number : Binary64} (canonical : number.IsCanonical)
    (some : 0 < number.significand) :
    number.Attracts ((shortest number).digits * 10 ^ (shortest number).exponent) := by
  have solid : number.isZero = false := beq_false_of_ne some.ne'
  have leading := leadingPower_le canonical some
  set power := leadingPower number.significand number.exponent with power_eq
  have fine : (10 : ℚ) ^ 16 * 10 ^ (power - 16) ≤ number.significand * 2 ^ number.exponent := by
    rw [zpow_sub₀ (by norm_num)]
    refine le_of_eq_of_le ?_ leading
    field_simp
  obtain ⟨floor, next⟩ := quotient_between number (power - 16)
  have found : ((interval number).nearestOnGrid (power - 16)).isSome = true :=
    ((interval number).nearestOnGrid_spec (power - 16)).2
      (neighbour_fits canonical some fine floor next)
  have searched := contains_search (interval number) power 16 0 (by simpa using found)
  rw [shortest, solid, if_neg (by decide), ← power_eq, trimmed_value]
  exact (contains_iff some _ _).1 searched

/-- A decimal number with the value of the shortest decimal of a number is rounded to the number. -/
theorem ofDecimal_shortest {number : Binary64} (canonical : number.IsCanonical) {digits : Nat}
    {power : Int} (value : (digits : ℚ) * 10 ^ power =
      (shortest number).digits * 10 ^ (shortest number).exponent) :
    Binary64.ofDecimal number.negative digits power = some number := by
  rcases Nat.eq_zero_or_pos number.significand with nothing | positive
  · have least : number.exponent = leastExponent :=
      canonical.full.resolve_left (by rw [nothing]; decide)
    obtain ⟨negative, significand, exponent⟩ := number
    obtain rfl : significand = 0 := nothing
    obtain rfl : exponent = leastExponent := least
    have zero : (digits : ℚ) * 10 ^ power = 0 := value.trans (zero_mul _)
    obtain rfl : digits = 0 := by
      rw [mul_eq_zero_iff_right (by positivity)] at zero
      exact_mod_cast zero
    rfl
  · exact ofDecimal_of_attracts canonical positive (value ▸ attracts_shortest canonical positive)

end Decimal

end GatewayCheck
