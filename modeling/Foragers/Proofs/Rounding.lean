import Foragers.Binary64.Rounding
import Mathlib.Tactic.Linarith
import Mathlib.Tactic.Ring

/-! # Rounding

Rounding to 53 significant bits respects the order of quotients and leaves
numbers alone that have no more bits. A rounded number that is made smaller by
the least fraction that a binary64 number can take from one is not above the
number it was rounded from.
-/

namespace Foragers

/-! ## Whole numbers -/

theorem le_roundHalfEven {numerator denominator bound : Nat} (positive : 0 < denominator)
    (reached : bound * denominator ≤ numerator) :
    bound ≤ roundHalfEven numerator denominator := by
  have quotientGe : bound ≤ numerator / denominator :=
    (Nat.le_div_iff_mul_le positive).mpr reached
  simp only [roundHalfEven]
  split
  · exact quotientGe
  · split <;> omega

/-- A rounded quotient is at most one half above the quotient. -/
theorem roundHalfEven_mul_le (numerator denominator : Nat) (positive : 0 < denominator) :
    2 * (roundHalfEven numerator denominator * denominator) ≤
      2 * numerator + denominator := by
  have division := Nat.div_add_mod numerator denominator
  have remainder := Nat.mod_lt numerator positive
  rw [Nat.mul_comm] at division
  simp only [roundHalfEven]
  split
  · omega
  · split
    · rw [Nat.add_mul]
      omega
    · rcases Nat.mod_two_eq_zero_or_one (numerator / denominator) with even | odd
      · rw [even, Nat.add_zero]
        omega
      · rw [odd, Nat.add_mul]
        omega

/-- A rounded quotient is at most one half below the quotient. -/
theorem le_roundHalfEven_mul (numerator denominator : Nat) (positive : 0 < denominator) :
    2 * numerator ≤
      2 * (roundHalfEven numerator denominator * denominator) + denominator := by
  have division := Nat.div_add_mod numerator denominator
  have remainder := Nat.mod_lt numerator positive
  rw [Nat.mul_comm] at division
  simp only [roundHalfEven]
  split
  · omega
  · split
    · rw [Nat.add_mul]
      omega
    · rcases Nat.mod_two_eq_zero_or_one (numerator / denominator) with even | odd
      · rw [even, Nat.add_zero]
        omega
      · rw [odd, Nat.add_mul]
        omega

/-- What is below the middle between a bound and its successor is not rounded
beyond the bound. -/
theorem roundHalfEven_le_of_lt_middle {numerator denominator bound : Nat}
    (positive : 0 < denominator)
    (below : 2 * numerator < (2 * bound + 1) * denominator) :
    roundHalfEven numerator denominator ≤ bound := by
  by_contra above
  have next : bound + 1 ≤ roundHalfEven numerator denominator := by omega
  have lower := Nat.mul_le_mul_right denominator next
  have upper := roundHalfEven_mul_le numerator denominator positive
  nlinarith

theorem roundHalfEven_mono {smaller larger denominator : Nat} (positive : 0 < denominator)
    (le : smaller ≤ larger) :
    roundHalfEven smaller denominator ≤ roundHalfEven larger denominator := by
  by_contra reversed
  have next : roundHalfEven larger denominator + 1 ≤ roundHalfEven smaller denominator := by
    omega
  have scaled := Nat.mul_le_mul_right denominator next
  have upper := roundHalfEven_mul_le smaller denominator positive
  have lower := le_roundHalfEven_mul larger denominator positive
  rw [Nat.add_mul] at scaled
  have equal : smaller = larger := by omega
  rw [equal] at next
  omega

theorem roundHalfEven_mul_self (number denominator : Nat)
    (positive : 0 < denominator) :
    roundHalfEven (number * denominator) denominator = number :=
  Nat.le_antisymm (roundHalfEven_le_of_le_mul (Nat.le_refl _))
    (le_roundHalfEven positive (Nat.le_refl _))

theorem roundHalfEven_mul_right (numerator denominator : Nat) {factor : Nat}
    (positive : 0 < factor) :
    roundHalfEven (numerator * factor) (denominator * factor) =
      roundHalfEven numerator denominator := by
  have remainder : 2 * (numerator % denominator * factor) =
      2 * (numerator % denominator) * factor := by ring
  simp only [roundHalfEven, Nat.mul_div_mul_right _ _ positive, Nat.mul_mod_mul_right,
    remainder, Nat.mul_lt_mul_right positive]

/-! ## Significant bits

A shift is a product with a power of two, which arithmetic can work with. -/

theorem roundSignificant_eq (numerator denominator : Nat) :
    roundSignificant numerator denominator =
      roundHalfEven numerator (denominator * 2 ^ significantShift numerator denominator) *
        2 ^ significantShift numerator denominator := by
  simp only [roundSignificant, Nat.shiftLeft_eq]

theorem isSignificant_iff (number : Nat) :
    IsSignificant number ↔ 2 ^ (number.log2 - 52) ∣ number := by
  rw [IsSignificant, Nat.one_shiftLeft]

theorem isSignificant_mul_two_pow {digits : Nat} (shift : Nat) (within : digits ≤ 2 ^ 53) :
    IsSignificant (digits * 2 ^ shift) := by
  rw [← Nat.shiftLeft_eq]
  exact isSignificant_shifted shift (by rwa [Nat.one_shiftLeft])

/-- At most 53 bits are left in front of the shift. -/
theorem roundHalfEven_significantShift_le (numerator denominator : Nat) :
    roundHalfEven numerator (denominator * 2 ^ significantShift numerator denominator) ≤
      2 ^ 53 := by
  rw [← Nat.shiftLeft_eq, ← Nat.one_shiftLeft]
  exact roundHalfEven_shifted_le numerator denominator

theorem roundSignificant_mul_right (numerator denominator : Nat) {factor : Nat}
    (positive : 0 < factor) :
    roundSignificant (numerator * factor) (denominator * factor) =
      roundSignificant numerator denominator := by
  have shift : significantShift (numerator * factor) (denominator * factor) =
      significantShift numerator denominator := by
    simp only [significantShift, Nat.mul_div_mul_right _ _ positive]
  rw [roundSignificant_eq, roundSignificant_eq, shift, Nat.mul_right_comm,
    roundHalfEven_mul_right _ _ positive]

/-- A number of at most 53 bits is its own nearest one. -/
theorem roundSignificant_mul_self {number : Nat} (denominator : Nat)
    (positive : 0 < denominator) (significant : IsSignificant number) :
    roundSignificant (number * denominator) denominator = number := by
  rcases (isSignificant_iff number).mp significant with ⟨digits, shifted⟩
  have scalePositive := Nat.two_pow_pos (number.log2 - 52)
  rw [roundSignificant_eq]
  simp only [significantShift, Nat.mul_div_cancel _ positive]
  generalize 2 ^ (number.log2 - 52) = scale at shifted scalePositive ⊢
  subst shifted
  have exact : scale * digits * denominator = digits * (denominator * scale) := by ring
  rw [exact, roundHalfEven_mul_self _ _ (Nat.mul_pos positive scalePositive), Nat.mul_comm]

theorem roundSignificant_le_two_pow (numerator denominator : Nat) :
    roundSignificant numerator denominator ≤
      2 ^ (53 + significantShift numerator denominator) := by
  rw [roundSignificant_eq, Nat.pow_add]
  exact Nat.mul_le_mul_right _ (roundHalfEven_significantShift_le numerator denominator)

/-- A quotient that has to be shifted has 53 bits in front of the shift. -/
theorem two_pow_mul_le_of_shifted {numerator denominator : Nat} (positive : 0 < denominator)
    (shifted : 0 < significantShift numerator denominator) :
    2 ^ 52 * (denominator * 2 ^ significantShift numerator denominator) ≤ numerator := by
  have logarithm : (numerator / denominator).log2 =
      52 + significantShift numerator denominator := by
    simp only [significantShift] at shifted ⊢
    omega
  have quotientNonzero : numerator / denominator ≠ 0 := by
    intro zero
    simp [significantShift, zero] at shifted
  have quotientGe := Nat.log2_self_le quotientNonzero
  rw [logarithm, Nat.le_div_iff_mul_le positive, Nat.pow_add] at quotientGe
  rwa [Nat.mul_right_comm, Nat.mul_assoc] at quotientGe

theorem two_pow_le_roundSignificant {numerator denominator : Nat}
    (positive : 0 < denominator) (shifted : 0 < significantShift numerator denominator) :
    2 ^ (52 + significantShift numerator denominator) ≤
      roundSignificant numerator denominator := by
  rw [roundSignificant_eq, Nat.pow_add]
  apply Nat.mul_le_mul_right
  exact le_roundHalfEven (Nat.mul_pos positive (Nat.two_pow_pos _))
    (two_pow_mul_le_of_shifted positive shifted)

theorem significantShift_mono (denominator : Nat) {smaller larger : Nat}
    (le : smaller ≤ larger) :
    significantShift smaller denominator ≤ significantShift larger denominator := by
  have quotientLe : smaller / denominator ≤ larger / denominator := Nat.div_le_div_right le
  simp only [significantShift]
  rcases Nat.eq_zero_or_pos (smaller / denominator) with zero | positive
  · simp [zero]
  · have reached := Nat.le_trans (Nat.log2_self_le (Nat.ne_of_gt positive)) quotientLe
    have logarithmLe := (Nat.le_log2 (by omega)).mpr reached
    omega

theorem roundSignificant_mono {smaller larger denominator : Nat}
    (positive : 0 < denominator) (le : smaller ≤ larger) :
    roundSignificant smaller denominator ≤ roundSignificant larger denominator := by
  rcases Nat.lt_or_eq_of_le (significantShift_mono denominator le) with below | equal
  · calc
      roundSignificant smaller denominator
        ≤ 2 ^ (53 + significantShift smaller denominator) :=
          roundSignificant_le_two_pow smaller denominator
      _ ≤ 2 ^ (52 + significantShift larger denominator) :=
          Nat.pow_le_pow_right (by decide) (by omega)
      _ ≤ roundSignificant larger denominator :=
          two_pow_le_roundSignificant positive (by omega)
  · rw [roundSignificant_eq, roundSignificant_eq, equal]
    apply Nat.mul_le_mul_right
    exact roundHalfEven_mono (Nat.mul_pos positive (Nat.two_pow_pos _)) le

/-- What is below the middle between a number of 53 bits and its successor is not
rounded beyond the number. -/
theorem roundSignificant_le_of_lt_middle {numerator denominator digits shift : Nat}
    (positive : 0 < denominator) (long : 2 ^ 52 ≤ digits) (short : digits < 2 ^ 53)
    (below : 2 * numerator < (2 * digits + 1) * (denominator * 2 ^ shift)) :
    roundSignificant numerator denominator ≤ digits * 2 ^ shift := by
  have scalePositive := Nat.mul_pos positive (Nat.two_pow_pos shift)
  have quotientLt : numerator / denominator < 2 ^ (53 + shift) := by
    rw [Nat.div_lt_iff_lt_mul positive, Nat.pow_add]
    nlinarith
  have shiftLe : significantShift numerator denominator ≤ shift := by
    simp only [significantShift]
    rcases Nat.eq_zero_or_pos (numerator / denominator) with zero | quotientPositive
    · simp [zero]
    · have := (Nat.log2_lt (Nat.ne_of_gt quotientPositive)).mpr quotientLt
      omega
  rcases Nat.lt_or_eq_of_le shiftLe with smaller | equal
  · calc
      roundSignificant numerator denominator
        ≤ 2 ^ (53 + significantShift numerator denominator) :=
          roundSignificant_le_two_pow numerator denominator
      _ ≤ 2 ^ (52 + shift) := Nat.pow_le_pow_right (by decide) (by omega)
      _ = 2 ^ 52 * 2 ^ shift := Nat.pow_add 2 52 shift
      _ ≤ digits * 2 ^ shift := Nat.mul_le_mul_right _ long
  · rw [roundSignificant_eq, equal]
    exact Nat.mul_le_mul_right _ (roundHalfEven_le_of_lt_middle scalePositive below)

/-- A number that is rounded up has more than 53 bits. -/
theorem shifted_of_lt_roundSignificant {number : Nat}
    (above : number < roundSignificant number 1) : 0 < significantShift number 1 := by
  by_contra unshifted
  have zero : significantShift number 1 = 0 := by omega
  have exact := roundHalfEven_mul_self number 1 (by decide)
  rw [Nat.mul_one] at exact
  simp [roundSignificant_eq, zero, exact] at above

/-- A number that is rounded up is not below the number of 53 bits that precedes
the rounded one. -/
theorem exists_predecessor {number : Nat} (above : number < roundSignificant number 1) :
    ∃ digits shift, 2 ^ 52 ≤ digits ∧ digits < 2 ^ 53 ∧
      roundSignificant number 1 = (digits + 1) * 2 ^ shift ∧
      digits * 2 ^ shift ≤ number := by
  have numberGe := two_pow_mul_le_of_shifted (by decide)
    (shifted_of_lt_roundSignificant above)
  have digitsLe := roundHalfEven_significantShift_le number 1
  have halfAbove := roundHalfEven_mul_le number (1 * 2 ^ significantShift number 1)
    (Nat.mul_pos (by decide) (Nat.two_pow_pos _))
  simp only [roundSignificant_eq, Nat.one_mul] at *
  generalize significantShift number 1 = shift at *
  generalize roundHalfEven number (2 ^ shift) = rounded at *
  have roundedGt : 2 ^ 52 < rounded :=
    Nat.lt_of_mul_lt_mul_right (Nat.lt_of_le_of_lt numberGe above)
  have successor : ∃ digits, rounded = digits + 1 := ⟨rounded - 1, by omega⟩
  rcases successor with ⟨digits, rfl⟩
  refine ⟨digits, shift, by omega, by omega, rfl, ?_⟩
  rw [Nat.add_mul] at halfAbove
  omega

/-- Rounding up does not survive even the smallest discount: what is rounded
above a number and then multiplied by the largest fraction below one of 53 bits
is not above the number. -/
theorem roundSignificant_discount_le (number : Nat) :
    roundSignificant (roundSignificant number 1 * (2 ^ 53 - 1)) (2 ^ 53) ≤ number := by
  rcases Nat.lt_or_ge number (roundSignificant number 1) with above | notAbove
  · rcases exists_predecessor above with ⟨digits, shift, long, short, roundedEq, digitsLe⟩
    have scalePositive := Nat.two_pow_pos shift
    have discounted : 2 * ((digits + 1) * 2 ^ shift * (2 ^ 53 - 1)) <
        (2 * digits + 1) * (2 ^ 53 * 2 ^ shift) := by
      have longScaled := Nat.mul_le_mul_right (2 ^ shift) long
      norm_num at longScaled ⊢
      nlinarith
    rw [roundedEq]
    exact Nat.le_trans
      (roundSignificant_le_of_lt_middle (by decide) long short discounted) digitsLe
  · calc
      roundSignificant (roundSignificant number 1 * (2 ^ 53 - 1)) (2 ^ 53)
        ≤ roundSignificant (roundSignificant number 1 * 2 ^ 53) (2 ^ 53) :=
          roundSignificant_mono (by decide) (Nat.mul_le_mul_left _ (by decide))
      _ = roundSignificant number 1 :=
          roundSignificant_mul_self _ (by decide) (isSignificant_roundSignificant number 1)
      _ ≤ number := notAbove

/-- A multiple of a power of two is rounded to another one. -/
theorem two_pow_dvd_roundSignificant (number exponent : Nat) :
    2 ^ exponent ∣ roundSignificant (number * 2 ^ exponent) 1 := by
  rcases Nat.le_total exponent (significantShift (number * 2 ^ exponent) 1)
    with small | large
  · rw [roundSignificant_eq]
    exact Nat.dvd_mul_left_of_dvd (Nat.pow_dvd_pow 2 small) _
  · have significant : IsSignificant (number * 2 ^ exponent) := by
      simp only [significantShift, Nat.div_one] at large
      rw [isSignificant_iff]
      exact Nat.dvd_mul_left_of_dvd (Nat.pow_dvd_pow 2 large) _
    have exact := roundSignificant_mul_self 1 (by decide) significant
    rw [Nat.mul_one] at exact
    rw [exact]
    exact Nat.dvd_mul_left _ _

/-- The largest number of 53 bits below a power of two is reached by cutting one
off its 53 ones. -/
theorem IsSignificant.le_of_lt {number : Nat} (significant : IsSignificant number)
    (shift : Nat) (below : number < 2 ^ 53 * 2 ^ shift) : number ≤ (2 ^ 53 - 1) * 2 ^ shift := by
  rcases Nat.lt_or_ge (number.log2 - 52) shift with short | aligned
  · calc
      number ≤ 2 ^ (number.log2 + 1) := Nat.le_of_lt Nat.lt_log2_self
      _ ≤ 2 ^ (52 + shift) := Nat.pow_le_pow_right (by decide) (by omega)
      _ = 2 ^ 52 * 2 ^ shift := Nat.pow_add 2 52 shift
      _ ≤ (2 ^ 53 - 1) * 2 ^ shift := Nat.mul_le_mul_right _ (by decide)
  · rw [isSignificant_iff] at significant
    rcases Nat.dvd_trans (Nat.pow_dvd_pow 2 aligned) significant with ⟨digits, rfl⟩
    rw [Nat.mul_comm] at below ⊢
    have digitsLt : digits < 2 ^ 53 := Nat.lt_of_mul_lt_mul_right below
    exact Nat.mul_le_mul_right _ (by omega)

end Foragers
