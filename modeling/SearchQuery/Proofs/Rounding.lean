import Mathlib.Algebra.Order.Field.Power
import Mathlib.Algebra.Order.Field.Rat
import Mathlib.Order.Compare
import Mathlib.Tactic.Ring
import SearchQuery.Number.Binary

/-!
# Whole numbers in double precision

Finite numbers are ordered by their values.  The value of a whole number in double precision is the
multiple of a power of two nearest to it, which keeps it between its neighbouring powers of two.
The numbers that are rounded to `2 ^ 63` reach half a step to either side, and the steps below
are half as wide as those above.
-/

set_option autoImplicit false

namespace SearchQuery.Binary

/-! ## The order of values -/

/-- The value `± significand · 2 ^ exponent`. -/
def value (negative : Bool) (significand : Nat) (exponent : Int) : ℚ :=
  (if negative then -(significand : ℚ) else significand) * 2 ^ exponent

theorem inUnits_mul {unit exponent : Int} (below : unit ≤ exponent) (negative : Bool)
    (significand : Nat) :
    (inUnits unit negative significand exponent : ℚ) * 2 ^ unit =
      value negative significand exponent := by
  have raised : (2 : ℚ) ^ (exponent - unit).toNat * 2 ^ unit = 2 ^ exponent := by
    rw [← zpow_natCast, ← zpow_add₀ (by norm_num), Int.toNat_of_nonneg (by omega)]
    congr 1
    omega
  cases negative with
  | false =>
      simp only [inUnits, value, Bool.false_eq_true, if_false, Nat.pow_eq]
      push_cast
      rw [mul_assoc, raised]
  | true =>
      simp only [inUnits, value, if_true, Nat.pow_eq]
      push_cast
      rw [neg_mul, mul_assoc, raised, neg_mul]

theorem compare?_finite (negative other : Bool) (significand otherSignificand : Nat)
    (exponent otherExponent : Int) :
    compare? (.finite negative significand exponent)
        (.finite other otherSignificand otherExponent) =
      some (compare (value negative significand exponent)
        (value other otherSignificand otherExponent)) := by
  let unit := min exponent otherExponent
  have scaledUp : StrictMono fun count : Int => (count : ℚ) * 2 ^ unit := by
    intro lesser greater less
    have positive : (0 : ℚ) < 2 ^ unit := zpow_pos (by norm_num) unit
    have lessCast : (lesser : ℚ) < greater := by exact_mod_cast less
    exact mul_lt_mul_of_pos_right lessCast positive
  have sameOrder := scaledUp.cmp_map_eq (inUnits unit negative significand exponent)
    (inUnits unit other otherSignificand otherExponent)
  rw [cmp_eq_compare, cmp_eq_compare, inUnits_mul (min_le_left _ _),
    inUnits_mul (min_le_right _ _)] at sameOrder
  rw [compare?, sameOrder]

theorem compare_intCast (left right : Int) :
    compare (left : ℚ) (right : ℚ) = compare left right := by
  have sameOrder := (Int.cast_strictMono (R := ℚ)).cmp_map_eq left right
  rw [cmp_eq_compare, cmp_eq_compare] at sameOrder
  exact sameOrder

/-! ## Quotients -/

theorem roundedQuotient_le {numerator denominator bound : Nat} (positive : 0 < denominator)
    (below : numerator ≤ bound * denominator) : roundedQuotient numerator denominator ≤ bound := by
  have whole := Nat.div_add_mod numerator denominator
  have quotientLe : numerator / denominator ≤ bound := by
    apply Nat.div_le_of_le_mul
    rw [Nat.mul_comm]
    exact below
  simp only [roundedQuotient]
  split
  next up =>
    rcases Nat.lt_or_ge (numerator / denominator) bound with smaller | reached
    · exact smaller
    · have same : numerator / denominator = bound := Nat.le_antisymm quotientLe reached
      have nothingLeft : numerator % denominator = 0 := by
        rw [same, Nat.mul_comm] at whole
        omega
      simp only [nothingLeft, Nat.mul_zero, Bool.or_eq_true, decide_eq_true_eq, Bool.and_eq_true,
        beq_iff_eq] at up
      omega
  next => exact quotientLe

theorem le_roundedQuotient {numerator denominator bound : Nat} (positive : 0 < denominator)
    (above : bound * denominator ≤ numerator) : bound ≤ roundedQuotient numerator denominator := by
  have quotientGe : bound ≤ numerator / denominator := (Nat.le_div_iff_mul_le positive).mpr above
  simp only [roundedQuotient]
  split
  · omega
  · exact quotientGe

/-! ## Whole numbers -/

/-- The exponent of the steps between the whole numbers of double precision around a number. -/
def step (magnitude : Nat) : Nat :=
  magnitude.log2 - 52

/-- The whole number of double precision nearest to a whole number. -/
def nearest (magnitude : Nat) : Nat :=
  roundedQuotient magnitude (2 ^ step magnitude) * 2 ^ step magnitude

theorem roundedQuotient_one (numerator : Nat) : roundedQuotient numerator 1 = numerator := by
  simp [roundedQuotient, Nat.mod_one]

theorem two_pow_log2_le_nearest {magnitude : Nat} (nonzero : magnitude ≠ 0) :
    2 ^ magnitude.log2 ≤ nearest magnitude := by
  have divided : 2 ^ magnitude.log2 =
      2 ^ (magnitude.log2 - step magnitude) * 2 ^ step magnitude := by
    rw [← Nat.pow_add, step]
    congr 1
    omega
  have least : 2 ^ (magnitude.log2 - step magnitude) * 2 ^ step magnitude ≤ magnitude := by
    rw [← divided]
    exact Nat.log2_self_le nonzero
  rw [divided, nearest]
  exact Nat.mul_le_mul_right _ (le_roundedQuotient (Nat.two_pow_pos _) least)

theorem nearest_le_two_pow_log2 (magnitude : Nat) :
    nearest magnitude ≤ 2 ^ (magnitude.log2 + 1) := by
  have divided : 2 ^ (magnitude.log2 + 1) =
      2 ^ (magnitude.log2 + 1 - step magnitude) * 2 ^ step magnitude := by
    rw [← Nat.pow_add, step]
    congr 1
    omega
  have most : magnitude ≤ 2 ^ (magnitude.log2 + 1 - step magnitude) * 2 ^ step magnitude := by
    rw [← divided]
    exact Nat.le_of_lt Nat.lt_log2_self
  rw [divided, nearest]
  exact Nat.mul_le_mul_right _ (roundedQuotient_le (Nat.two_pow_pos _) most)

/-! ## What is rounded to `2 ^ 63` -/

theorem roundedQuotient_cases (numerator denominator : Nat) :
    (roundedQuotient numerator denominator = numerator / denominator + 1 ∧
      (denominator < 2 * (numerator % denominator) ∨
        2 * (numerator % denominator) = denominator ∧ numerator / denominator % 2 = 1)) ∨
    (roundedQuotient numerator denominator = numerator / denominator ∧
      ¬(denominator < 2 * (numerator % denominator) ∨
        2 * (numerator % denominator) = denominator ∧ numerator / denominator % 2 = 1)) := by
  by_cases up : denominator < 2 * (numerator % denominator) ∨
      2 * (numerator % denominator) = denominator ∧ numerator / denominator % 2 = 1
  · exact .inl ⟨by simp [roundedQuotient, up], up⟩
  · exact .inr ⟨by simp [roundedQuotient, up], up⟩

theorem nearest_of_log2 {magnitude exponent : Nat} (least : 2 ^ exponent ≤ magnitude)
    (most : magnitude < 2 ^ (exponent + 1)) :
    nearest magnitude = roundedQuotient magnitude (2 ^ (exponent - 52)) * 2 ^ (exponent - 52) := by
  have nonzero : magnitude ≠ 0 := Nat.ne_of_gt (Nat.lt_of_lt_of_le (Nat.two_pow_pos _) least)
  have isLog : magnitude.log2 = exponent := (Nat.log2_eq_iff nonzero).mpr ⟨least, most⟩
  rw [nearest, step, isLog]

theorem nearest_of_le {magnitude : Nat} (most : magnitude ≤ 2 ^ 63) :
    nearest magnitude ≤ 2 ^ 63 ∧ (nearest magnitude = 2 ^ 63 ↔ 2 ^ 63 - 512 ≤ magnitude) := by
  rcases Nat.lt_or_ge magnitude (2 ^ 62) with small | large
  · have small : magnitude.log2 < 62 := by
      by_cases nonzero : magnitude = 0
      · rw [nonzero]
        decide
      · exact (Nat.log2_lt nonzero).mpr small
    have bound : nearest magnitude ≤ 2 ^ 62 :=
      Nat.le_trans (nearest_le_two_pow_log2 magnitude) (Nat.pow_le_pow_right (by decide) (by omega))
    omega
  · rcases Nat.lt_or_ge magnitude (2 ^ 63) with below | reached
    · have steps := nearest_of_log2 large below
      have rounded := roundedQuotient_cases magnitude 1024
      simp only [Nat.reduceSub, Nat.reducePow] at steps
      omega
    · obtain rfl : magnitude = 2 ^ 63 := Nat.le_antisymm most reached
      decide

theorem nearest_of_ge {magnitude : Nat} (least : 2 ^ 63 ≤ magnitude) :
    2 ^ 63 ≤ nearest magnitude ∧ (nearest magnitude = 2 ^ 63 ↔ magnitude ≤ 2 ^ 63 + 1024) := by
  rcases Nat.lt_or_ge magnitude (2 ^ 64) with below | large
  · have steps := nearest_of_log2 least below
    have rounded := roundedQuotient_cases magnitude 2048
    simp only [Nat.reduceSub, Nat.reducePow] at steps
    omega
  · have nonzero : magnitude ≠ 0 := by omega
    have isLarge : 64 ≤ magnitude.log2 := (Nat.le_log2 nonzero).mpr large
    have bound : 2 ^ 64 ≤ nearest magnitude :=
      Nat.le_trans (Nat.pow_le_pow_right (by decide) isLarge) (two_pow_log2_le_nearest nonzero)
    omega

/-! ## Rounding to double precision -/

theorem floorLog2_one {magnitude : Nat} (nonzero : magnitude ≠ 0) :
    floorLog2 magnitude 1 = magnitude.log2 := by
  have reached : 2 ^ magnitude.log2 ≤ magnitude := Nat.log2_self_le nonzero
  have oneLog : Nat.log2 1 = 0 := by decide
  simp [floorLog2, scaled, oneLog, reached]

/-- The quotient that is rounded is the number of steps, however small the steps are. -/
theorem roundedQuotient_scaled (magnitude : Nat) :
    (roundedQuotient (scaled 2 magnitude 1 (magnitude.log2 - 52)).1
      (scaled 2 magnitude 1 (magnitude.log2 - 52)).2 : ℚ) * 2 ^ ((magnitude.log2 : ℤ) - 52) =
      nearest magnitude := by
  by_cases whole : (0 : ℤ) ≤ (magnitude.log2 : ℤ) - 52
  · have sameStep : ((magnitude.log2 : ℤ) - 52).toNat = step magnitude := by
      rw [step]
      omega
    have asNat : (magnitude.log2 : ℤ) - 52 = (step magnitude : ℤ) := by
      rw [step]
      omega
    rw [scaled, if_pos whole, sameStep, asNat, zpow_natCast, nearest, Nat.one_mul]
    push_cast
    rfl
  · have noStep : step magnitude = 0 := by
      rw [step]
      omega
    have cancelled : (2 : ℚ) ^ (-((magnitude.log2 : ℤ) - 52)).toNat *
        2 ^ ((magnitude.log2 : ℤ) - 52) = 1 := by
      rw [← zpow_natCast, ← zpow_add₀ (by norm_num), Int.toNat_of_nonneg (by omega),
        neg_add_cancel, zpow_zero]
    rw [scaled, if_neg whole, roundedQuotient_one, nearest, noStep, Nat.pow_zero,
      roundedQuotient_one, Nat.mul_one, Nat.pow_eq]
    push_cast
    rw [mul_assoc, cancelled, mul_one]

/-- The whole number of double precision nearest to a whole number of either sign. -/
def rounded (whole : Int) : Int :=
  if whole < 0 then -(nearest whole.natAbs : Int) else nearest whole.natAbs

/-- The number is a whole number in double precision, which is infinite only if it lies beyond all
whole numbers of 64 bits. -/
def Rounds (number : Binary) (whole : Int) : Prop :=
  (∃ significand exponent, number = .finite (whole < 0) significand exponent ∧
    value (whole < 0) significand exponent = rounded whole) ∨
  number = .infinite (whole < 0) ∧ 2 ^ 64 ≤ whole.natAbs

theorem value_eq_rounded {significand : Nat} {exponent whole : Int}
    (same : (significand : ℚ) * 2 ^ exponent = nearest whole.natAbs) :
    value (whole < 0) significand exponent = rounded whole := by
  by_cases negative : whole < 0
  · simp [value, rounded, negative, neg_mul, same]
  · simp [value, rounded, negative, same]

/-- What follows the rounding of the significand: one that has become too long loses a bit, and an
exponent that is too large makes the number infinite. -/
def normalized (negative : Bool) (significand : Nat) (exponent : Int) : Binary :=
  let (significand, exponent) :=
    if significand = Nat.pow 2 53 then (Nat.pow 2 52, exponent + 1) else (significand, exponent)
  if exponent > 971 then .infinite negative else .finite negative significand exponent

theorem round_double_eq (negative : Bool) {magnitude : Nat} (nonzero : magnitude ≠ 0) :
    round .double negative magnitude 1 =
      normalized negative
        (roundedQuotient (scaled 2 magnitude 1 (magnitude.log2 - 52)).1
          (scaled 2 magnitude 1 (magnitude.log2 - 52)).2)
        (magnitude.log2 - 52) := by
  have exponentIs : max ((magnitude.log2 : ℤ) - ((53 - 1 : Nat) : ℤ)) (-1074) =
      (magnitude.log2 : ℤ) - 52 := by
    omega
  simp only [round, nonzero, if_false, BinaryFormat.double, floorLog2_one nonzero, exponentIs]
  rfl

theorem normalized_cases (negative : Bool) (significand : Nat) (exponent : Int) :
    (∃ other otherExponent, normalized negative significand exponent =
        .finite negative other otherExponent ∧
      (other : ℚ) * 2 ^ otherExponent = significand * 2 ^ exponent) ∨
    normalized negative significand exponent = .infinite negative ∧ 971 ≤ exponent := by
  rw [normalized]
  by_cases tooLong : significand = Nat.pow 2 53
  · rw [if_pos tooLong]
    by_cases tooLarge : exponent + 1 > 971
    · exact .inr ⟨if_pos tooLarge, by omega⟩
    · refine .inl ⟨_, _, if_neg tooLarge, ?_⟩
      rw [tooLong, zpow_add₀ (by norm_num), Nat.pow_eq, Nat.pow_eq]
      push_cast
      ring
  · rw [if_neg tooLong]
    by_cases tooLarge : exponent > 971
    · exact .inr ⟨if_pos tooLarge, by omega⟩
    · exact .inl ⟨_, _, if_neg tooLarge, rfl⟩

theorem round_rounds {whole : Int} (nonzero : whole ≠ 0) :
    Rounds (round .double (whole < 0) whole.natAbs 1) whole := by
  have magnitudeNonzero : whole.natAbs ≠ 0 := Int.natAbs_ne_zero.mpr nonzero
  rw [round_double_eq _ magnitudeNonzero]
  rcases normalized_cases (whole < 0) _ _ with
    ⟨significand, exponent, isFinite, sameValue⟩ | ⟨isInfinite, large⟩
  · rw [roundedQuotient_scaled] at sameValue
    exact .inl ⟨significand, exponent, isFinite, value_eq_rounded sameValue⟩
  · refine .inr ⟨isInfinite, ?_⟩
    have largeLog : 64 ≤ whole.natAbs.log2 := by omega
    exact (Nat.le_log2 magnitudeNonzero).mp largeLog

theorem ofInt_rounds (whole : Int) : Rounds (ofInt .double whole) whole := by
  by_cases nonzero : whole = 0
  · subst nonzero
    refine .inl ⟨0, -1074, rfl, ?_⟩
    simp [value, rounded, nearest, roundedQuotient]
  · exact round_rounds nonzero

/-- A decimal number is rounded as a whole; one with very many digits is infinite without being
rounded. -/
theorem ofDecimal_rounds {whole : Int} (nonzero : whole ≠ 0) :
    Rounds (ofDecimal .double (whole < 0) whole.natAbs 0) whole := by
  have someDigit : 0 < (Nat.toDigits 10 whole.natAbs).length := Nat.length_toDigits_pos
  rw [ofDecimal, if_neg (Int.natAbs_ne_zero.mpr nonzero)]
  simp only [BinaryFormat.double, zero_add]
  split
  next manyDigits =>
    refine .inr ⟨rfl, ?_⟩
    have long : ¬(Nat.toDigits 10 whole.natAbs).length ≤ 20 := by omega
    rw [Nat.length_toDigits_le_iff (by decide) (by decide)] at long
    omega
  next =>
    split
    next noDigits => omega
    next => exact round_rounds nonzero

/-- Rounded numbers are ordered by what they are rounded to, if one of them has at most 64 bits. -/
theorem compare?_of_rounds {left right : Binary} {whole other : Int}
    (leftRounds : left.Rounds whole) (rightRounds : right.Rounds other) (small : other.natAbs ≤ 2 ^ 63) :
    compare? left right = some (compare (rounded whole) (rounded other)) := by
  rcases rightRounds with ⟨otherSignificand, otherExponent, rfl, rightValue⟩ | ⟨_, large⟩
  · rcases leftRounds with ⟨significand, exponent, rfl, leftValue⟩ | ⟨rfl, large⟩
    · rw [compare?_finite, leftValue, rightValue, compare_intCast]
    · have inner := nearest_of_le small
      have outer := nearest_of_ge (Nat.le_trans (by decide) large)
      by_cases negative : whole < 0
      · have less : rounded whole < rounded other := by
          unfold rounded
          omega
        rw [compare?, compare_lt_iff_lt.mpr less]
        simp [negative]
      · have greater : rounded other < rounded whole := by
          unfold rounded
          omega
        rw [compare?, compare_gt_iff_gt.mpr greater]
        simp [negative]
  · omega

/-! ## The ends of the whole numbers of 64 bits -/

theorem rounded_of_natAbs_le {whole : Int} (small : whole.natAbs ≤ 2 ^ 63) :
    -2 ^ 63 ≤ rounded whole ∧ rounded whole ≤ 2 ^ 63 ∧
      (rounded whole = 2 ^ 63 ↔ 2 ^ 63 - 512 ≤ whole) ∧
      (rounded whole = -2 ^ 63 ↔ whole ≤ -2 ^ 63 + 512) := by
  have inner := nearest_of_le small
  unfold rounded
  omega

theorem rounded_of_ge {whole : Int} (above : 2 ^ 63 ≤ whole) :
    2 ^ 63 ≤ rounded whole ∧ (rounded whole = 2 ^ 63 ↔ whole ≤ 2 ^ 63 + 1024) := by
  have outer := nearest_of_ge (show 2 ^ 63 ≤ whole.natAbs by omega)
  unfold rounded
  omega

theorem rounded_of_le {whole : Int} (below : whole ≤ -2 ^ 63) :
    rounded whole ≤ -2 ^ 63 ∧ (rounded whole = -2 ^ 63 ↔ -2 ^ 63 - 1024 ≤ whole) := by
  have outer := nearest_of_ge (show 2 ^ 63 ≤ whole.natAbs by omega)
  unfold rounded
  omega

end SearchQuery.Binary
