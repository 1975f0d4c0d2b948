namespace Foragers

/-! Rounding of exact quotients. `roundHalfEven` gives a whole number and
`roundSignificant` a number of at most 53 significant bits; both take the
nearest one and settle a tie in favour of the even one. -/

def roundHalfEven (numerator denominator : Nat) : Nat :=
  let quotient := numerator / denominator
  let doubled := 2 * (numerator % denominator)
  if doubled < denominator then quotient
  else if denominator < doubled then quotient + 1
  else quotient + quotient % 2

/-- How far a quotient must be shifted right to leave 53 bits of its whole part. -/
def significantShift (numerator denominator : Nat) : Nat :=
  (numerator / denominator).log2 - 52

def roundSignificant (numerator denominator : Nat) : Nat :=
  let shift := significantShift numerator denominator
  roundHalfEven numerator (denominator <<< shift) <<< shift

/-- A number has at most 53 significant bits. -/
def IsSignificant (number : Nat) : Prop :=
  1 <<< (number.log2 - 52) ∣ number

theorem roundHalfEven_le_of_le_mul {numerator denominator bound : Nat}
    (within : numerator ≤ bound * denominator) :
    roundHalfEven numerator denominator ≤ bound := by
  have division := Nat.div_add_mod numerator denominator
  have quotientLe : numerator / denominator ≤ bound :=
    Nat.div_le_of_le_mul (by rwa [Nat.mul_comm] at within)
  simp only [roundHalfEven]
  rcases Nat.lt_or_eq_of_le quotientLe with below | equal
  · split
    · omega
    · split <;> omega
  · rw [equal, Nat.mul_comm] at division
    have noRemainder : numerator % denominator = 0 := by omega
    rw [noRemainder, equal]
    split
    · omega
    · have denominatorZero : denominator = 0 := by omega
      subst denominatorZero
      have boundZero : bound = 0 := by simpa using equal.symm
      simp [boundZero]

theorem roundHalfEven_shifted_le (numerator denominator : Nat) :
    roundHalfEven numerator (denominator <<< significantShift numerator denominator) ≤
      1 <<< 53 := by
  rw [Nat.shiftLeft_eq, Nat.one_shiftLeft]
  rcases Nat.eq_zero_or_pos denominator with zero | positive
  · subst zero
    simp only [roundHalfEven, Nat.zero_mul, Nat.div_zero, Nat.mod_zero]
    split
    · omega
    · split <;> omega
  · apply roundHalfEven_le_of_le_mul
    have quotientLt : numerator / denominator < 2 ^ ((numerator / denominator).log2 + 1) :=
      Nat.lt_log2_self
    have powersLe : 2 ^ ((numerator / denominator).log2 + 1) ≤
        2 ^ (53 + significantShift numerator denominator) := by
      apply Nat.pow_le_pow_right (by decide)
      simp only [significantShift]
      omega
    have numeratorLt := Nat.lt_of_lt_of_le quotientLt powersLe
    rw [Nat.div_lt_iff_lt_mul positive, Nat.pow_add, Nat.mul_assoc] at numeratorLt
    rw [Nat.mul_comm denominator]
    exact Nat.le_of_lt numeratorLt

/-- Digits in front of a shift are significant when there are at most 53 of them. -/
theorem isSignificant_shifted {digits : Nat} (shift : Nat) (within : digits ≤ 1 <<< 53) :
    IsSignificant (digits <<< shift) := by
  simp only [IsSignificant, Nat.shiftLeft_eq, Nat.one_mul] at within ⊢
  rcases Nat.eq_zero_or_pos digits with zero | positive
  · subst zero
    rw [Nat.zero_mul]
    exact Nat.dvd_zero _
  · rcases Nat.lt_or_eq_of_le within with below | equal
    · have productLt : digits * 2 ^ shift < 2 ^ (53 + shift) := by
        rw [Nat.pow_add]
        exact Nat.mul_lt_mul_of_pos_right below (Nat.two_pow_pos shift)
      have nonzero : digits * 2 ^ shift ≠ 0 :=
        Nat.ne_of_gt (Nat.mul_pos positive (Nat.two_pow_pos shift))
      have logLt := (Nat.log2_lt nonzero).mpr productLt
      exact Nat.dvd_mul_left_of_dvd (Nat.pow_dvd_pow 2 (by omega)) digits
    · subst equal
      rw [← Nat.pow_add, Nat.log2_two_pow]
      exact Nat.pow_dvd_pow 2 (by omega)

theorem isSignificant_roundSignificant (numerator denominator : Nat) :
    IsSignificant (roundSignificant numerator denominator) :=
  isSignificant_shifted _ (roundHalfEven_shifted_le numerator denominator)

end Foragers
