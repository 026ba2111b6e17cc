import Mathlib.Algebra.Order.Field.Power
import Mathlib.Algebra.Order.Field.Rat
import Mathlib.Data.List.DropRight
import Mathlib.Tactic.FieldSimp
import SearchQuery.Number.Shortest
import SearchQuery.Proofs.Numerals

/-!
# The first digit of a number is not zero

The digits of a positive number are found by counting steps of a power of ten.  A count inside the
interval of the number is never zero, since zero lies outside; and should none be found, the power
of ten is small enough for at least one step to fit.
-/

set_option autoImplicit false

namespace SearchQuery

/-! ## Fractions -/

namespace Binary

variable {base numerator denominator : Nat}

theorem scaled_positive (basePositive : 0 < base) (numerator denominator : Nat) (power : Int) :
    (0 < numerator → 0 < (scaled base numerator denominator power).1) ∧
      (0 < denominator → 0 < (scaled base numerator denominator power).2) := by
  unfold scaled
  split
  · exact ⟨id, fun positive => Nat.mul_pos positive (Nat.pow_pos basePositive)⟩
  · exact ⟨fun positive => Nat.mul_pos positive (Nat.pow_pos basePositive), id⟩

theorem scaled_ratio (basePositive : 0 < base) (numerator denominator : Nat) (power : Int) :
    ((scaled base numerator denominator power).1 : ℚ) /
        (scaled base numerator denominator power).2 =
      numerator / denominator / (base : ℚ) ^ power := by
  have nonzero : (base : ℚ) ≠ 0 := by exact_mod_cast basePositive.ne'
  unfold scaled
  split
  next nonnegative =>
    have raised : (base : ℚ) ^ power.toNat = (base : ℚ) ^ power := by
      rw [← zpow_natCast, Int.toNat_of_nonneg nonnegative]
    rw [Nat.pow_eq, Nat.cast_mul, Nat.cast_pow, raised, div_div]
  next negative =>
    have raised : (base : ℚ) ^ (-power).toNat = ((base : ℚ) ^ power)⁻¹ := by
      rw [← zpow_natCast, Int.toNat_of_nonneg (by omega), zpow_neg]
    rw [Nat.pow_eq, Nat.cast_mul, Nat.cast_pow, raised]
    field_simp

theorem scaled_le_iff (basePositive : 0 < base) (numerator : Nat)
    (denominatorPositive : 0 < denominator) (power : Int) :
    (scaled base numerator denominator power).2 ≤ (scaled base numerator denominator power).1 ↔
      (base : ℚ) ^ power ≤ numerator / denominator := by
  have below : (0 : ℚ) < (scaled base numerator denominator power).2 := by
    exact_mod_cast (scaled_positive basePositive numerator denominator power).2 denominatorPositive
  have powerPositive : (0 : ℚ) < (base : ℚ) ^ power := zpow_pos (by exact_mod_cast basePositive) _
  rw [← one_le_div₀ powerPositive, ← scaled_ratio basePositive, one_le_div₀ below]
  exact_mod_cast Iff.rfl

theorem scaled_eq_mul (base numerator denominator : Nat) (power : Int) :
    scaled base numerator denominator power =
      (numerator * (scaled base 1 denominator power).1,
        (scaled base 1 denominator power).2) := by
  unfold scaled
  split
  · rw [Nat.mul_one]
  · rw [Nat.one_mul]

/-- A number lies between two neighbouring powers of two. -/
theorem two_zpow_log2_bounds {number : Nat} (positive : 0 < number) :
    (2 : ℚ) ^ (number.log2 : Int) ≤ number ∧ (number : ℚ) < 2 ^ ((number.log2 : Int) + 1) := by
  have least : 2 ^ number.log2 ≤ number := Nat.log2_self_le positive.ne'
  have most : number < 2 ^ (number.log2 + 1) := Nat.lt_log2_self
  constructor
  · rw [zpow_natCast]
    exact_mod_cast least
  · rw [← Nat.cast_succ, zpow_natCast]
    exact_mod_cast most

theorem ratio_bounds (numeratorPositive : 0 < numerator) (denominatorPositive : 0 < denominator) :
    (2 : ℚ) ^ ((numerator.log2 : Int) - denominator.log2 - 1) ≤ numerator / denominator ∧
      (numerator / denominator : ℚ) < 2 ^ ((numerator.log2 : Int) - denominator.log2 + 1) := by
  obtain ⟨numeratorLeast, numeratorMost⟩ := two_zpow_log2_bounds numeratorPositive
  obtain ⟨denominatorLeast, denominatorMost⟩ := two_zpow_log2_bounds denominatorPositive
  have denominatorCast : (0 : ℚ) < denominator := by exact_mod_cast denominatorPositive
  have two : (2 : ℚ) ≠ 0 := by norm_num
  constructor
  · rw [le_div_iff₀ denominatorCast]
    calc (2 : ℚ) ^ ((numerator.log2 : Int) - denominator.log2 - 1) * denominator
        ≤ 2 ^ ((numerator.log2 : Int) - denominator.log2 - 1) *
            2 ^ ((denominator.log2 : Int) + 1) :=
          mul_le_mul_of_nonneg_left denominatorMost.le (zpow_nonneg (by norm_num) _)
      _ = 2 ^ (numerator.log2 : Int) := by
          rw [← zpow_add₀ two]
          congr 1
          omega
      _ ≤ numerator := numeratorLeast
  · rw [div_lt_iff₀ denominatorCast]
    calc (numerator : ℚ) < 2 ^ ((numerator.log2 : Int) + 1) := numeratorMost
      _ = 2 ^ ((numerator.log2 : Int) - denominator.log2 + 1) * 2 ^ (denominator.log2 : Int) := by
          rw [← zpow_add₀ two]
          congr 1
          omega
      _ ≤ 2 ^ ((numerator.log2 : Int) - denominator.log2 + 1) * denominator :=
          mul_le_mul_of_nonneg_left denominatorLeast (zpow_nonneg (by norm_num) _)

/-- The power of two that is found is not above the fraction, and less than two steps below it. -/
theorem floorLog2_bounds (numeratorPositive : 0 < numerator)
    (denominatorPositive : 0 < denominator) :
    (2 : ℚ) ^ floorLog2 numerator denominator ≤ numerator / denominator ∧
      (numerator / denominator : ℚ) < 2 ^ (floorLog2 numerator denominator + 2) := by
  obtain ⟨least, most⟩ := ratio_bounds numeratorPositive denominatorPositive
  unfold floorLog2
  simp only
  split
  next reached =>
    have exact := (scaled_le_iff (by decide) numerator denominatorPositive _).mp reached
    refine ⟨by exact_mod_cast exact, most.trans_le ?_⟩
    exact zpow_le_zpow_right₀ (by norm_num) (by omega)
  next =>
    refine ⟨least, most.trans_le ?_⟩
    exact zpow_le_zpow_right₀ (by norm_num) (by omega)

end Binary

/-! ## Binary and decimal exponents -/

theorem thousand_zpow_le {bits : Int} (least : -1100 ≤ bits) :
    (1000 : ℚ) ^ bits ≤ 1024 ^ bits * 10 ^ 220 := by
  rcases le_or_gt 0 bits with nonnegative | negative
  · have grown : (1000 : ℚ) ^ bits ≤ 1024 ^ bits :=
      zpow_le_zpow_left₀ nonnegative (by norm_num) (by norm_num)
    exact grown.trans (le_mul_of_one_le_right (by positivity) (one_le_pow₀ (by norm_num)))
  · obtain ⟨count, rfl⟩ : ∃ count : Nat, bits = -(count : Int) := ⟨bits.natAbs, by omega⟩
    have quotient : (1024 / 1000 : ℚ) ^ count ≤ 10 ^ 220 := by
      calc (1024 / 1000 : ℚ) ^ count ≤ (1024 / 1000) ^ (5 * 220) :=
            pow_le_pow_right₀ (by norm_num) (by omega)
        _ = ((1024 / 1000) ^ 5) ^ 220 := pow_mul _ _ _
        _ ≤ 10 ^ 220 := pow_le_pow_left₀ (by norm_num) (by norm_num) 220
    rw [div_pow, div_le_iff₀ (by positivity)] at quotient
    rw [zpow_neg, zpow_neg, zpow_natCast, zpow_natCast, ← div_eq_inv_mul,
      le_div_iff₀ (by positivity), ← div_eq_inv_mul, div_le_iff₀ (by positivity)]
    exact quotient

/-- Three tenths of the binary exponent are close to the decimal one, as long as the exponent is not
too far below zero. -/
theorem ten_zpow_le_two_zpow {bits : Int} (least : -1100 ≤ bits) :
    (10 : ℚ) ^ (bits * 3 / 10 - 22) ≤ 2 ^ bits := by
  have tenth : ((10 : ℚ) ^ (bits * 3 / 10 - 22)) ^ 10 ≤ (2 ^ bits) ^ 10 := by
    calc ((10 : ℚ) ^ (bits * 3 / 10 - 22)) ^ 10 = 10 ^ ((bits * 3 / 10 - 22) * 10) := by
          rw [← zpow_natCast, ← zpow_mul]
          rfl
      _ ≤ 10 ^ (3 * bits - 220) := zpow_le_zpow_right₀ (by norm_num) (by omega)
      _ = 1000 ^ bits / 10 ^ 220 := by
          rw [zpow_sub₀ (by norm_num), zpow_mul]
          norm_num
      _ ≤ 1024 ^ bits := by
          rw [div_le_iff₀ (by positivity)]
          exact thousand_zpow_le least
      _ = (2 ^ bits) ^ 10 := by
          rw [← zpow_natCast, ← zpow_mul, mul_comm, zpow_mul]
          norm_num
  exact (pow_le_pow_iff_left₀ (by positivity) (by positivity) (by norm_num)).mp tenth

namespace Shortest

/-! ## Steps of a power of ten -/

namespace Interval

/-- An interval of positive numbers. -/
structure Positive (interval : Interval) : Prop where
  low : 0 < interval.low
  value : 0 < interval.value
  unit : 0 < interval.unit

theorem Positive.inSteps {interval : Interval} (positive : interval.Positive) (power : Int) :
    (interval.inSteps power).Positive := by
  obtain ⟨scale, unit⟩ := Binary.scaled_positive (show 0 < 10 by decide) 1 interval.unit power
  exact ⟨Nat.mul_pos positive.low (scale Nat.one_pos),
    Nat.mul_pos positive.value (scale Nat.one_pos), unit positive.unit⟩

theorem positive_ofBinary (format : BinaryFormat) {significand : Nat} (nonzero : significand ≠ 0)
    (exponent : Int) : (ofBinary format significand exponent).Positive := by
  obtain ⟨scale, unit⟩ := Binary.scaled_positive (show 0 < 2 by decide) 1 4 (-exponent)
  have scalePositive := scale Nat.one_pos
  refine ⟨Nat.mul_pos ?_ scalePositive, Nat.mul_pos (by omega) scalePositive, unit (by decide)⟩
  split <;> omega

theorem unit_le_value_inSteps_iff {interval : Interval} (positive : interval.Positive)
    (power : Int) :
    (interval.inSteps power).unit ≤ (interval.inSteps power).value ↔
      (10 : ℚ) ^ power ≤ interval.value / interval.unit := by
  have steps := Binary.scaled_le_iff (show 0 < 10 by decide) interval.value positive.unit power
  rw [Binary.scaled_eq_mul] at steps
  exact_mod_cast steps

theorem ratio_ofBinary (format : BinaryFormat) (significand : Nat) (exponent : Int) :
    ((ofBinary format significand exponent).value : ℚ) /
        (ofBinary format significand exponent).unit = significand * 2 ^ exponent := by
  have ratio := Binary.scaled_ratio (show 0 < 2 by decide) 1 4 (-exponent)
  have four : (4 : ℚ) ≠ 0 := by norm_num
  simp only [ofBinary]
  push_cast at ratio ⊢
  rw [mul_div_assoc, ratio, zpow_neg, div_inv_eq_mul]
  field_simp

theorem holds_of_nearest? {interval : Interval} {tie : TieBreak} {steps : Nat}
    (found : interval.nearest? tie = some steps) : interval.holds steps = true := by
  unfold nearest? at found
  simp only at found
  split at found
  next => cases found
  next below _ =>
    cases found
    exact below
  next above =>
    cases found
    exact above
  next below above =>
    split at found
    · cases found
      exact below
    split at found
    · cases found
      exact above
    cases tie with
    | up =>
        cases found
        exact above
    | toEven =>
        cases found
        split
        · exact below
        · exact above

theorem positive_of_holds {interval : Interval} (positive : interval.Positive) {steps : Nat}
    (held : interval.holds steps = true) : 0 < steps := by
  have low := positive.low
  apply Nat.pos_of_ne_zero
  intro zero
  rw [zero, holds, Nat.zero_mul] at held
  cases closed : interval.closed <;> simp [closed] at held
  omega

end Interval

/-! ## The search for digits -/

variable {interval : Interval}

/-- At most 21 digits are tried, so the point may lie 21 powers of ten above the number.  A point that
is reached by counting upwards lies only one above it. -/
theorem le_pointFrom (positive : interval.Positive) :
    ∀ (fuel : Nat) (guess : Int),
      (10 : ℚ) ^ (guess - 21) ≤ interval.value / interval.unit →
      (10 : ℚ) ^ (pointFrom interval guess fuel - 21) ≤ interval.value / interval.unit := by
  intro fuel
  induction fuel with
  | zero =>
      intro guess bounded
      exact bounded
  | succ fuel inductionHypothesis =>
      intro guess bounded
      rw [pointFrom]
      split
      next => exact bounded
      next reached =>
        apply inductionHypothesis
        have exact := (Interval.unit_le_value_inSteps_iff positive guess).mp (by omega)
        apply le_trans _ exact
        exact zpow_le_zpow_right₀ (by norm_num) (by omega)

theorem search_positive (positive : interval.Positive) (tie : TieBreak) {point : Int}
    (bounded : (10 : ℚ) ^ (point - 21) ≤ interval.value / interval.unit) :
    ∀ fuel count, count + fuel = 21 → 0 < (search tie interval point count fuel).2 := by
  intro fuel
  induction fuel with
  | zero =>
      intro count last
      have inSteps := positive.inSteps (point - count)
      apply Nat.div_pos _ inSteps.unit
      rw [Interval.unit_le_value_inSteps_iff positive]
      have same : count = 21 := by omega
      rw [same]
      exact bounded
  | succ fuel inductionHypothesis =>
      intro count last
      rw [search]
      split
      next steps found =>
        exact Interval.positive_of_holds (positive.inSteps _) (Interval.holds_of_nearest? found)
      next => exact inductionHypothesis (count + 1) (by omega)

/-! ## The row of digits -/

/-- The first digit of a positive number is not zero. -/
theorem head?_toDigits {number : Nat} (positive : 0 < number) :
    (Nat.toDigits 10 number).head? ≠ some '0' := by
  induction number using Nat.strongRecOn with
  | ind number inductionHypothesis =>
      rcases Nat.lt_or_ge number 10 with small | large
      · have notZero : ∀ digit < 10, 0 < digit → digit.digitChar ≠ '0' := by decide
        rw [Nat.toDigits_of_lt_base small, List.head?_cons, ne_eq, Option.some.injEq]
        exact notZero number small positive
      · have shorter := inductionHypothesis (number / 10) (by omega) (by omega)
        have divided := Nat.toDigits_append_toDigits (b := 10) (n := number / 10)
          (d := number % 10) (by decide) (by omega) (by omega)
        rw [Nat.div_add_mod] at divided
        rw [← divided, List.head?_append_of_ne_nil _ Nat.toDigits_ne_nil]
        exact shorter

/-- A row of digits that does not start with zero. -/
structure Leads (row : List Char) : Prop where
  isRow : Decimal.IsRow row
  first : row.head? ≠ some '0'

theorem withoutTrailingZeros_isPrefixOf (row : List Char) : withoutTrailingZeros row <+: row :=
  List.rdropWhile_prefix _ row

theorem leads_withoutTrailingZeros {row : List Char} (leads : Leads row) :
    Leads (withoutTrailingZeros row) := by
  obtain ⟨first, others, rfl⟩ := List.exists_cons_of_ne_nil leads.isRow.nonempty
  have notZero : first ≠ '0' := fun zero => leads.first (by rw [zero]; rfl)
  have shorter := withoutTrailingZeros_isPrefixOf (first :: others)
  have nonempty : withoutTrailingZeros (first :: others) ≠ [] := by
    intro empty
    have allZero := List.rdropWhile_eq_nil_iff.mp empty first List.mem_cons_self
    exact notZero (by simpa using allZero)
  refine ⟨⟨nonempty, fun c member => leads.isRow.allDigits c (shorter.subset member)⟩, ?_⟩
  obtain ⟨kept, rest, divided⟩ := List.exists_cons_of_ne_nil nonempty
  rw [divided] at shorter ⊢
  rw [(List.cons_prefix_cons.mp shorter).1]
  exact leads.first

/-- The guess from which the point is counted is not far above the number. -/
theorem le_point (positive : interval.Positive)
    (least : (2 : ℚ) ^ (-1074 : Int) ≤ interval.value / interval.unit) :
    (10 : ℚ) ^ (point interval - 21) ≤ interval.value / interval.unit := by
  obtain ⟨atLeast, below⟩ := Binary.floorLog2_bounds positive.value positive.unit
  have bits : -1074 < Binary.floorLog2 interval.value interval.unit + 2 :=
    (zpow_lt_zpow_iff_right₀ (by norm_num)).mp (least.trans_lt below)
  apply le_pointFrom positive
  have largeBits : -1100 ≤ Binary.floorLog2 interval.value interval.unit := by omega
  rw [sub_sub]
  exact (ten_zpow_le_two_zpow largeBits).trans atLeast

/-- The digits of a positive number are at least one, and the first is not zero. -/
theorem leads_digits (format : BinaryFormat) (tie : TieBreak) {significand : Nat} {exponent : Int}
    (nonzero : significand ≠ 0) (least : -1074 ≤ exponent) :
    Leads (digits format tie significand exponent).row := by
  have positive := Interval.positive_ofBinary format nonzero exponent
  have atLeast : (2 : ℚ) ^ (-1074 : Int) ≤ significand * 2 ^ exponent := by
    have whole : (1 : ℚ) ≤ significand := by exact_mod_cast Nat.pos_of_ne_zero nonzero
    calc (2 : ℚ) ^ (-1074 : Int) ≤ 2 ^ exponent := zpow_le_zpow_right₀ (by norm_num) least
      _ ≤ significand * 2 ^ exponent := le_mul_of_one_le_left (zpow_nonneg (by norm_num) _) whole
  rw [← Interval.ratio_ofBinary format] at atLeast
  have steps := search_positive positive tie (le_point positive atLeast) 20 1 rfl
  exact leads_withoutTrailingZeros ⟨(Decimal.isRow_toDigits _).1, head?_toDigits steps⟩

end Shortest

end SearchQuery
